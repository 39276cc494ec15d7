/-
PatternSearch.Pattern.Refusal — why a pattern cannot be compiled.

One constructor per cause. `Refusal.code` is the status code of a cause; causes
that are about a name carry its bytes as they stand in the pattern
(`Refusal.name?`).
-/
import PatternSearch.Status

namespace PatternSearch.Pattern

/-- The causes for which a pattern is refused. -/
inductive Refusal where
  /-- Groups nested too deeply. -/
  | depthLimit
  /-- An interval that breaks off. -/
  | unfinishedInterval
  /-- A class without members. -/
  | emptyClass
  /-- A class that is not closed. -/
  | unclosedClass
  /-- An escape sign, a meta sign or a control sign at the end. -/
  | escapeAtEnd
  | metaAtEnd
  | controlAtEnd
  /-- A meta sign or a control sign without its hyphen. -/
  | malformedMeta
  | malformedControl
  /-- An operator that is known and has no meaning. -/
  | undefinedOperator
  /-- A class range that ends in a whole class. -/
  | classAtRangeEnd
  /-- A hyphen in a class that belongs to nothing. -/
  | unmatchedHyphen
  /-- A repetition of nothing, or of something that takes no room. -/
  | missingTarget
  | invalidTarget
  /-- Parentheses that do not pair. -/
  | unmatchedClose
  | unclosedGroup
  /-- The pattern ends inside the opening of a group. -/
  | endInGroup
  /-- An opening of a group that has no meaning. -/
  | unknownGroupOption
  /-- An unknown name between colons in a class. -/
  | unknownBracketName
  /-- A lookbehind whose length cannot be told. -/
  | invalidLookbehind
  /-- A condition that is none. -/
  | invalidCondition
  /-- A pattern that would never come to an end. -/
  | endlessRecursion
  /-- Lookbehind that consists of nothing but optional parts. -/
  | hollowLookbehind
  /-- An interval that is none. -/
  | invalidInterval
  /-- Numbers out of bounds. -/
  | numberTooBig
  | countTooBig
  | reversedCount
  /-- A class range that runs backwards. -/
  | reversedRange
  /-- Bytes written by number that break off inside a character. -/
  | incompleteBytes
  /-- A reference to a group that does not exist. -/
  | unknownReference
  /-- A reference by number where only names are allowed. -/
  | numberedReference
  /-- A code point with too many digits. -/
  | tooManyDigits
  /-- What can be wrong with a name. -/
  | emptyName
  | invalidName (name : ByteArray)
  | invalidNameCharacter (name : ByteArray)
  | undefinedName (name : ByteArray)
  | undefinedGroup (name : ByteArray)
  | repeatedName (name : ByteArray)
  | ambiguousCall (name : ByteArray)
  | unknownProperty (name : ByteArray)
  /-- Bytes or digits that are no character, or a number above all of them. -/
  | invalidCode
  | codeTooLarge
  /-- Options that contradict each other. -/
  | conflictingOptions

namespace Refusal

/-- The status code of a cause. -/
def code : Refusal → Int32
  | depthLimit => -16
  | unfinishedInterval => -100
  | emptyClass => -102
  | unclosedClass => -103
  | escapeAtEnd => -104
  | metaAtEnd => -105
  | controlAtEnd => -106
  | malformedMeta => -108
  | malformedControl => -109
  | classAtRangeEnd => -110
  | unmatchedHyphen => -112
  | missingTarget => -113
  | invalidTarget => -114
  | unmatchedClose => -116
  | unclosedGroup => -117
  | endInGroup => -118
  | unknownGroupOption => -119
  | unknownBracketName => -121
  | invalidLookbehind => -122
  | hollowLookbehind => 1
  | invalidInterval => -123
  | numberTooBig => -200
  | countTooBig => -201
  | reversedCount => -202
  | reversedRange => -203
  | incompleteBytes => -206
  | unknownReference => -208
  | numberedReference => -209
  | tooManyDigits => -212
  | undefinedOperator => -213
  | emptyName => -214
  | invalidName _ => -215
  | invalidNameCharacter _ => -216
  | undefinedName _ => -217
  | undefinedGroup _ => -218
  | repeatedName _ => -219
  | ambiguousCall _ => -220
  | endlessRecursion => -221
  | unknownProperty _ => -223
  | invalidCondition => -224
  | invalidCode => -400
  | codeTooLarge => -401
  | conflictingOptions => -403

/-- The name a cause is about. -/
def name? : Refusal → Option ByteArray
  | invalidName n | invalidNameCharacter n | undefinedName n | undefinedGroup n
  | repeatedName n | ambiguousCall n | unknownProperty n => some n
  | _ => none

end Refusal

end PatternSearch.Pattern
