/-
PatternSearch.Proofs.Host.Asking — when a host's search asks the engine.

`searchFirstBy` is written over a monad, so what it does can be told from what
it answers. A search within the text is one question to the engine, and nothing
besides: the answer is what the host is told (`searchFirstBy_inRange`). A search
that is refused is a mere value, without any question at all
(`searchFirstBy_of_refused`).

The engine of a regex is a function, and the identity is a monad. What a host is
answered by `searchFirst` is the instance, and everything else about single
searches is proved of it.
-/
import PatternSearch.Host.Functions
import PatternSearch.Proofs.Search.Answers

namespace PatternSearch

namespace Host

/-- The query of a host that searches between two offsets. -/
def hostQuery (text : Buffer) (start stop options maxStack retry : UInt32) : Query :=
  ⟨text.bytes, start.toNat, stop.toNat, ⟨options⟩,
    (Limits.ofNumbers maxStack.toNat retry.toNat).param⟩

/-- The answer a host gets for a status: the status, and the region unless the
status is a failure. -/
def carried : Int32 × Region → SearchFirstResult
  | (status, region) => ⟨status, if status < mismatchStatus then .empty else .ofRegion region⟩

/-- A search is refused without an engine to ask, or if its range is not within
the text. -/
def Refused {α : Type} (ask? : Option α) (text : Buffer) (start stop : UInt32) : Prop :=
  ask? = none ∨ text.length < start.toNat ∨ text.length < stop.toNat

variable {text : Buffer} {start stop options maxStack retry : UInt32}

theorem not_inRange_of_refused {α : Type} {ask : α} (refused : Refused (some ask) text start stop) :
    ¬ (hostQuery text start stop options maxStack retry).InRange := by
  rintro ⟨start_le, stop_le⟩
  rcases refused with absent | start_lt | stop_lt
  · cases absent
  · exact Nat.not_lt_of_le start_le start_lt
  · exact Nat.not_lt_of_le stop_le stop_lt

section Asking

variable {m : Type → Type} [Monad m] [LawfulMonad m] {ask : Query → Region → m (Int32 × Region)}

/-- Within the text, a search asks the engine once, and a host is answered the
status. -/
theorem searchFirstBy_inRange
    (inRange : (hostQuery text start stop options maxStack retry).InRange) :
    searchFirstBy (some ask) text start stop options maxStack retry =
      carried <$> ask (hostQuery text start stop options maxStack retry) .empty := by
  have within : (⟨text.bytes, start.toNat, stop.toNat, ⟨options⟩,
      (Limits.ofNumbers maxStack.toNat retry.toNat).param⟩ : Query).InRange := inRange
  simp only [searchFirstBy, searchOnceBy, Engine.searchBy, if_pos within, bind_assoc, pure_bind,
    map_eq_pure_bind]
  refine bind_congr fun answer => ?_
  obtain ⟨status, region⟩ := answer
  rcases status_cases status with ⟨nonneg, above, -⟩ | rfl | ⟨-, below⟩
  · simp only [answerOfStatus_of_nonneg nonneg, ofNat_toNat_toInt nonneg, pure_bind, carried,
      if_neg above]
  · simp only [answerOfStatus_mismatch, pure_bind]
    rfl
  · simp only [answerOfStatus_of_lt below, pure_bind, carried, if_pos below]
    rfl

/-- A refused search asks nothing: it is an invalid argument, without groups. -/
theorem searchFirstBy_of_refused {ask? : Option (Query → Region → m (Int32 × Region))}
    (refused : Refused ask? text start stop) :
    searchFirstBy ask? text start stop options maxStack retry =
      pure ⟨invalidArgument, .empty⟩ := by
  cases ask? with
  | none =>
    rw [searchFirstBy, searchOnceBy, pure_bind]
    rfl
  | some ask =>
    have outside : ¬ (⟨text.bytes, start.toNat, stop.toNat, ⟨options⟩,
      (Limits.ofNumbers maxStack.toNat retry.toNat).param⟩ : Query).InRange :=
        not_inRange_of_refused refused
    simp only [searchFirstBy, searchOnceBy, Engine.searchBy, if_neg outside, pure_bind]
    rfl

end Asking

/-! ## The engine of a handle -/

theorem searchFirst_inRange (re : Regex)
    (inRange : (hostQuery text start stop options maxStack retry).InRange) :
    searchFirst (some re) text start stop options maxStack retry =
      carried (re.search 0 (hostQuery text start stop options maxStack retry) .empty) := by
  rw [searchFirst, Option.map_some, searchFirstBy_inRange (m := Id) inRange]
  rfl

theorem searchFirst_of_refused {handle : Handle} (refused : Refused handle text start stop) :
    searchFirst handle text start stop options maxStack retry = ⟨invalidArgument, .empty⟩ := by
  have asks : Refused (handle.map fun re => re.search 0) text start stop :=
    refused.imp_left fun none => by rw [none, Option.map_none]
  rw [searchFirst, searchFirstBy_of_refused (m := Id) asks]
  rfl

/-- Whatever the range is, a host is told what a single search of the engine
answers. -/
theorem searchFirst_eq_search (re : Regex) :
    searchFirst (some re) text start stop options maxStack retry =
      match re.searchWithParam (hostQuery text start stop options maxStack retry) .empty with
      | (.error e, _) => ⟨e.code, .empty⟩
      | (.ok found, region) => ⟨found.elim mismatchStatus Int32.ofNat, .ofRegion region⟩ := by
  simp only [searchFirst, searchFirstBy, searchOnceBy, Option.map_some, hostQuery,
    Engine.searchWithParam, Engine.searchAfter]
  generalize Engine.searchBy (m := Id) (re.search 0) _ _ = answer
  rcases answer with ⟨_ | _ | _, _⟩ <;> rfl

end Host

end PatternSearch
