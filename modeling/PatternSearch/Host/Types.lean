/-
PatternSearch.Host.Types — the records handed to a host.

A host counts in 32 bits and takes a list as a pointer and a count. The empty
list has the null pointer, so a list a host gets is an `Option`: `none` for
null. `listPointer` is the one place where that is decided.
-/
import PatternSearch.Regex.Compile
import PatternSearch.Search.Region

namespace PatternSearch.Host

/-- A list as a host gets it: null if it is empty. -/
def listPointer {α : Type} (xs : List α) : Option (List α) :=
  match xs with
  | [] => none
  | _ => some xs

theorem listPointer_eq_none_iff {α : Type} {xs : List α} : listPointer xs = none ↔ xs = [] := by
  cases xs <;> simp [listPointer]

@[simp] theorem getD_listPointer {α : Type} (xs : List α) : (listPointer xs).getD [] = xs := by
  cases xs <;> rfl

@[simp] theorem bind_head?_listPointer {α : Type} (xs : List α) :
    (listPointer xs).bind List.head? = xs.head? := by
  cases xs <;> rfl

/-- The groups of a match. -/
structure HostRegion where
  starts : Option (List Int)
  ends : Option (List Int)
  count : UInt32
  deriving DecidableEq, Repr

namespace HostRegion

/-- A region without groups. -/
def empty : HostRegion := ⟨none, none, 0⟩

/-- A copy of a region. -/
def ofRegion (r : Region) : HostRegion :=
  ⟨listPointer r.starts, listPointer r.ends, UInt32.ofNat r.length⟩

end HostRegion

/-- The regions of all matches. -/
structure RegionsArray where
  count : UInt32
  regions : Option (List HostRegion)
  deriving DecidableEq, Repr

namespace RegionsArray

/-- The array of some regions. -/
def ofList (rs : List HostRegion) : RegionsArray := ⟨UInt32.ofNat rs.length, listPointer rs⟩

end RegionsArray

/-- A group name and its groups, each list with its length. -/
structure HostGroupName where
  name : Option (List UInt8)
  nameLength : Int32
  indices : Option (List Nat)
  indexCount : Int32
  deriving DecidableEq, Repr

namespace HostGroupName

/-- A copy of a name. -/
def ofEntry (name : ByteArray) (groups : List Nat) : HostGroupName :=
  ⟨listPointer name.data.toList, Int32.ofNat name.size, listPointer groups,
    Int32.ofNat groups.length⟩

end HostGroupName

/-- All group names. -/
structure GroupNamesArray where
  count : UInt32
  names : Option (List HostGroupName)
  deriving DecidableEq, Repr

namespace GroupNamesArray

/-- The names of a table. Without names there is no visit; otherwise it ends
with the last entry. -/
def ofTable (t : NameTable) : GroupNamesArray :=
  let names :=
    if t.count = 0 then []
    else
      (t.forEachBytes (fun names name groups =>
        let names := names ++ [HostGroupName.ofEntry name groups]
        (names, decide (names.length < t.count))) []).1
  ⟨UInt32.ofNat names.length, listPointer names⟩

end GroupNamesArray

/-- What compiling answers. -/
structure NewRegexResult where
  regex : Option Regex
  result : Int32
  groupNames : Option GroupNamesArray

/-- What a search for the first match answers. -/
structure SearchFirstResult where
  result : Int32
  region : HostRegion
  deriving DecidableEq, Repr

/-- What a search for all matches answers. -/
structure SearchAllResult where
  result : Int32
  array : Option RegionsArray
  deriving DecidableEq, Repr

end PatternSearch.Host
