/-
PatternSearch.Template.Expand — writing out a template in any of the three
dialects.
-/
import PatternSearch.Pattern.Flavour
import PatternSearch.Template.Dollar

namespace PatternSearch.Dialect

open Template

/-- Writes a template out after `dst`. After an error, what was written
before the fault stays. -/
def expand (d : Dialect) (template : String) (g : GroupTexts) (dst : String) :
    String × Except TemplateError Unit :=
  match d with
  | ruby => (Escaped.expand 'k' template g dst, .ok ())
  | python => (Escaped.expand 'g' template g dst, .ok ())
  | java => Dollar.expand template g dst

end PatternSearch.Dialect
