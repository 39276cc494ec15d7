/-
PatternSearch.Proofs.Host.Names — the names of a pattern, as a host gets them.

There are four ways to ask for names and one more for a host, who is handed an
array. `name_views_agree` says that they all tell the same: the entries of the
table, in its order, as text or as bytes. Two names that are different bytes may
be the same text; then the first one counts, for every way to look one up.

A host may also have a function called on the names. Its status is kept aside
and turned into whether to go on, and that into a status again, which is what
the table goes by. `callbacks_heeded` says that nothing is lost by this.
-/
import PatternSearch.Host.Functions
import PatternSearch.Proofs.Regex.Enumeration
import Mathlib.Data.List.Forall2

namespace PatternSearch

open Pattern Text

namespace Host

/-! ## 1. Arrays of names -/

/-- What a host is handed for an entry: the bytes of its name and its groups,
null where there are none, and how many there are as far as 32 bits with a sign
can tell. -/
structure HostGroupName.Copies (g : HostGroupName) (entry : NamedGroup) : Prop where
  name : g.name.getD [] = entry.name.data.toList
  name_null : g.name = none ↔ entry.name.size = 0
  nameLength : ∀ n : Int32, n.toInt = entry.name.size → g.nameLength = n
  indices : g.indices.getD [] = entry.groups
  indices_null : g.indices = none ↔ entry.groups = []
  indexCount : ∀ n : Int32, n.toInt = entry.groups.length → g.indexCount = n

theorem ofNat_eq_of_toInt {k : Nat} {n : Int32} (same : n.toInt = k) : Int32.ofNat k = n := by
  rw [← Int32.ofInt_eq_ofNat, ← same, Int32.ofInt_toInt]

theorem HostGroupName.copies_ofEntry (entry : NamedGroup) :
    (ofEntry entry.name entry.groups).Copies entry where
  name := getD_listPointer _
  name_null := by
    rw [ofEntry, listPointer_eq_none_iff, ← List.length_eq_zero_iff]
    rfl
  nameLength n := ofNat_eq_of_toInt
  indices := getD_listPointer _
  indices_null := listPointer_eq_none_iff
  indexCount n := ofNat_eq_of_toInt

/-- The array has an entry for every name, also when there is none. -/
theorem ofTable_eq (t : NameTable) :
    GroupNamesArray.ofTable t =
      ⟨UInt32.ofNat t.count,
        listPointer (t.entries.map fun e => HostGroupName.ofEntry e.name e.groups)⟩ := by
  rw [GroupNamesArray.ofTable]
  split
  · rename_i none
    have none : t.entries = [] := List.eq_nil_of_length_eq_zero none
    simp [NameTable.count, none]
  · have all := NameTable.counted_eq HostGroupName.ofEntry t
    simp only [all, List.length_map]
    rfl

/-- **Views of the names.** All ways to ask for the names of a table tell its
entries, in its order: as text, as text without the groups, by name, where the
first entry counts that is the name as text, and as the array for a host, which
has the bytes. Pointers are null where there is nothing to point at. The host's
count is right if a number of names can be told in 32 bits with a sign. -/
theorem name_views_agree (t : NameTable) :
    t.groupNames = t.entries.map (fun e => ⟨lossy e.name, e.groups⟩) ∧
    t.captureNames = t.groupNames.map GroupName.name ∧
    (∀ name, t.groupNumbers name = (GroupName.get? t.groupNames name).getD []) ∧
    List.Forall₂ HostGroupName.Copies ((GroupNamesArray.ofTable t).names.getD []) t.entries ∧
    ((GroupNamesArray.ofTable t).names = none ↔ t.entries = []) ∧
    ∀ number : Int32, number.toInt = t.count →
      (GroupNamesArray.ofTable t).count.toNat = t.entries.length := by
  refine ⟨t.groupNames_eq, ?_, t.groupNumbers_eq, ?_, ?_, fun number counted => ?_⟩
  · rw [t.captureNames_eq, t.groupNames_eq, List.map_map]
    rfl
  · rw [ofTable_eq, getD_listPointer, List.forall₂_map_left_iff, List.forall₂_same]
    exact fun entry _ => HostGroupName.copies_ofEntry entry
  · rw [ofTable_eq, listPointer_eq_none_iff, List.map_eq_nil_iff]
  · have bound := number.toInt_lt
    rw [ofTable_eq, UInt32.toNat_ofNat_of_lt' (by simp [UInt32.size]; omega), NameTable.count]

/-- Two names that are not UTF-8, and the same as text. -/
def unreadableNames : NameTable := ⟨[⟨⟨#[0xFF]⟩, [1, 3]⟩, ⟨⟨#[0xFE]⟩, [2]⟩]⟩

/-- Looked up as text, both names have the groups of the first. -/
theorem name_views_agree_unreadable :
    (2 : Int32).toInt = unreadableNames.count ∧
      unreadableNames.groupNames = [⟨"\uFFFD", [1, 3]⟩, ⟨"\uFFFD", [2]⟩] ∧
      unreadableNames.groupNumbers "\uFFFD" = [1, 3] ∧
      (GroupNamesArray.ofTable unreadableNames).count.toNat = 2 := by
  have agree := name_views_agree unreadableNames
  have names : unreadableNames.groupNames = [⟨"\uFFFD", [1, 3]⟩, ⟨"\uFFFD", [2]⟩] := by
    decide +kernel
  have counted : (2 : Int32).toInt = unreadableNames.count := by decide
  refine ⟨counted, names, ?_, agree.2.2.2.2.2 2 counted⟩
  rw [agree.2.2.1, names]
  rfl

/-! ## 2. Functions called on the names -/

/-- A callback whose status is kept aside, and that goes on as long as it is 0,
is called as the table calls it, and the status kept is the table's answer. -/
theorem status_kept {σ : Type} (t : NameTable) (call : σ → ByteArray → List Nat → σ × Int32)
    (state : σ) :
    (t.forEachBytes (fun kept name groups =>
      (call kept.1 name groups, (call kept.1 name groups).2 == 0)) (state, 0)).1 =
      t.enumerate (fun state entry => call state entry.name entry.groups) state := by
  obtain ⟨entries⟩ := t
  induction entries generalizing state with
  | nil => rfl
  | cons entry rest ih =>
    rw [NameTable.forEachBytes_cons, NameTable.enumerate_cons]
    rcases call state entry.name entry.groups with ⟨next, status⟩
    by_cases ok : status = 0
    · simpa [ok] using ih next
    · simp [ok]

/-- A host's function is called as if the table itself called it. -/
theorem forEachName_eq {σ : Type} (re : Regex) (call : σ → ByteArray → List Nat → σ × Int32)
    (state : σ) :
    forEachName (some re) (some call) state =
      re.names.enumerate (fun state entry => call state entry.name entry.groups) state :=
  status_kept re.names call state

/-- **Callbacks.** A callback is called on the names of a pattern one after the
other, up to and including the first where it says to stop, and the answer is
whether it never has. A host's function is called, and its status answered, as
if it were handed to the table itself: up to the first status that is not 0, and
that is the answer. Without a handle or a function there is no call. What the
calls are, a callback that records them tells; what state it is left in can be
anything. -/
theorem callbacks_heeded (re : Regex) :
    (∀ {σ : Type} (call : σ → ByteArray → List Nat → σ × Bool) (state : σ),
      let called := callsUntil (! ·) call state re.names.raw
      re.names.forEachBytes call state =
          (leaves call state called, (answers call state called).all id) ∧
        (re.names.forEachBytes (recording call) (state, [])).1.2 = called) ∧
    (∀ {σ : Type} (call : σ → String → List Nat → σ × Bool) (state : σ),
      let called := callsUntil (! ·) call state re.names.decoded
      re.names.forEach call state =
          (leaves call state called, (answers call state called).all id) ∧
        (re.names.forEach (recording call) (state, [])).1.2 = called) ∧
    (∀ {σ : Type} (call : σ → ByteArray → List Nat → σ × Int32) (state : σ),
      let called := callsUntil (· != 0) call state re.names.raw
      forEachName (some re) (some call) state =
          re.names.enumerate (fun state entry => call state entry.name entry.groups) state ∧
        forEachName (some re) (some call) state =
          (leaves call state called, ((answers call state called).find? (· != 0)).getD 0) ∧
        (forEachName (some re) (some (recording call)) (state, [])).1.2 = called) ∧
    ∀ {σ : Type} (handle : Handle) (call : Option (σ → ByteArray → List Nat → σ × Int32))
      (state : σ), forEachName none call state = (state, -30) ∧
        forEachName handle none state = (state, -30) := by
  refine ⟨fun call state => ?_, fun call state => ?_, fun call state => ?_,
    fun handle call state => ?_⟩
  · refine ⟨re.names.forEachBytes_eq call state, ?_⟩
    simp [NameTable.forEachBytes_eq, callsUntil_recording, leaves_recording]
  · refine ⟨re.names.forEach_eq call state, ?_⟩
    simp [NameTable.forEach_eq, callsUntil_recording, leaves_recording]
  · refine ⟨forEachName_eq re call state, ?_, ?_⟩
    · rw [forEachName_eq, NameTable.enumerate_eq]
    · simp [forEachName_eq, NameTable.enumerate_eq, callsUntil_recording, leaves_recording]
  · cases handle <;> exact ⟨rfl, rfl⟩

end Host

end PatternSearch
