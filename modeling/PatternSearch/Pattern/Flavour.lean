/-
PatternSearch.Pattern.Flavour — the twelve ways a pattern can be written, and
the three ways a replacement template can.

A flavour is a name for a grammar (`Pattern.Grammar`). The template dialect of
a pattern follows from its flavour: two flavours have a dialect of their own,
all others share the default one.
-/
namespace PatternSearch

/-- How replacement templates refer to groups. -/
inductive Dialect where
  /-- A backslash and a digit, or a backslash, `k` and a name in angle
  brackets. -/
  | ruby
  /-- A backslash and a digit, or a backslash, `g` and a name in angle
  brackets. -/
  | python
  /-- A dollar sign and a number, or a dollar sign and a name in braces; a
  backslash escapes. -/
  | java
  deriving DecidableEq, Repr, Inhabited

/-- The flavours of patterns. -/
inductive Flavour where
  | asis
  | posixBasic
  | posixExtended
  | emacs
  | grep
  | gnuRegex
  | java
  | perl
  | perlNg
  | ruby
  | python
  | oniguruma
  deriving DecidableEq, Repr, Inhabited

namespace Flavour

/-- All flavours. -/
def all : List Flavour :=
  [asis, posixBasic, posixExtended, emacs, grep, gnuRegex, java, perl, perlNg,
   ruby, python, oniguruma]

/-- The flavour's name. -/
def label : Flavour → String
  | asis => "Asis"
  | posixBasic => "PosixBasic"
  | posixExtended => "PosixExtended"
  | emacs => "Emacs"
  | grep => "Grep"
  | gnuRegex => "GnuRegex"
  | java => "Java"
  | perl => "Perl"
  | perlNg => "PerlNg"
  | ruby => "Ruby"
  | python => "Python"
  | oniguruma => "Oniguruma"

/-- The flavour with a given name. -/
def ofLabel? (s : String) : Option Flavour := all.find? (fun f => f.label == s)

/-- The flavour patterns are written in unless they say otherwise. -/
def standard : Flavour := ruby

/-- The template dialect that goes with a flavour. -/
def dialect : Flavour → Dialect
  | python => .python
  | java => .java
  | _ => .ruby

end Flavour

namespace Dialect

/-- The dialect's name. -/
def label : Dialect → String
  | ruby => "Ruby"
  | python => "Python"
  | java => "Java"

/-- The dialect with a given name. -/
def ofLabel? (s : String) : Option Dialect :=
  [ruby, python, java].find? (fun d => d.label == s)

end Dialect

end PatternSearch
