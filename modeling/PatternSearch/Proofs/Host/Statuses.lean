/-
PatternSearch.Proofs.Host.Statuses — the statuses a host is answered.

A status is a word. On its way to a host it is taken apart, into an offset, no
match or an error, and put together again: by `Engine.searchBy` and
`searchFirstBy` for a single search, by the scan and `searchAll` for all
matches, by `CompileAnswer.toExcept` and `adopt` for a compilation.
`statuses_survive` says that nothing is lost by this, whatever the status is.

Nothing is assumed of the engine. One whose matches lie before the cursor may
lead a scan back, and there may be no end to it; but a search that fails ends
every scan that is led to it (`searchAll_of_leads`), so what is never answered
has never failed.
-/
import PatternSearch.Proofs.Host.MatchByMatch
import PatternSearch.Proofs.Search.Statuses

namespace PatternSearch

open Text Pattern

/-! ## 1. What compiling answers -/

/-- A refusal never has the status of success. -/
theorem Pattern.Refusal.code_ne_zero (r : Refusal) : r.code ≠ 0 := by
  cases r <;> simp [Refusal.code]

namespace CompileAnswer

/-- The failure an answer stands for has its status. -/
theorem code_failure (a : CompileAnswer) : a.failure.code = a.status := by
  rw [failure]
  cases a.name? <;> rfl

/-- An answer that keeps to the contract: status 0 comes with a regex, and no
other status does. -/
def Lawful (a : CompileAnswer) : Prop := a.status = 0 ↔ a.regex?.isSome

end CompileAnswer

theorem Regex.lawful_compileAnswer (pattern : ByteArray) (mask : UInt32) (d : Definition) :
    (compileAnswer pattern mask d).Lawful := by
  rw [CompileAnswer.Lawful, compileAnswer]
  cases Program.compile pattern mask d.grammar with
  | ok p => simp
  | error r => simp [r.code_ne_zero]

namespace Host

/-! ## 2. What an answer carries -/

/-- An answer with a status and the groups of a region; without groups if the
status is a failure. -/
structure SearchFirstResult.Carries (answer : SearchFirstResult) (status : Int32)
    (region : Region) : Prop where
  result_eq : answer.result = status
  starts_eq : answer.region.starts.getD [] = if status < mismatchStatus then [] else region.starts
  ends_eq : answer.region.ends.getD [] = if status < mismatchStatus then [] else region.ends
  count_eq : answer.region.count =
    if status < mismatchStatus then 0 else UInt32.ofNat region.length

theorem carries_carried (status : Int32) (region : Region) :
    (carried (status, region)).Carries status region := by
  by_cases below : status < mismatchStatus
  · simp only [carried, if_pos below]
    constructor <;> simp only [if_pos below] <;> rfl
  · simp only [carried, if_neg below]
    constructor <;> simp only [if_neg below, HostRegion.ofRegion, getD_listPointer]

/-! ## 3. All matches -/

section All

variable {re : Regex} {text : Buffer} {options maxStack retry : UInt32}

/-- What the engine answers to the searches of `searchAll`, in order, if these
come to an end. -/
def hostStatuses (re : Regex) (text : Buffer) (options maxStack retry : UInt32) :
    Option (List Int32) :=
  ((hostScan re text options maxStack retry).runAll 0).map fun full =>
    (hostScan re text options maxStack retry).statuses 0 .empty full.cursors

/-- What `searchAll` makes of the statuses. -/
theorem searchAll_of_statuses {asked : List Int32}
    (here : hostStatuses re text options maxStack retry = some asked) (start stop : UInt32) :
    ∃ regions, searchAll (some re) text start stop options maxStack retry =
      some (.ofRegions ((Scan.endOf 0 (Scan.firstFailure? asked)).map fun _ => regions)) := by
  obtain ⟨full, made, rfl⟩ := Option.map_eq_some_iff.mp here
  have ends := (Scan.run_eq_some_iff hostScan_inRange).mp made
  obtain ⟨count, outcome⟩ := ends.outcome_eq_endOf (Nat.le_refl _)
  refine ⟨full.accepted, ?_⟩
  rw [searchAll_of_run made, outcome, Standing.first]
  cases Scan.firstFailure? _ <;> rfl

variable (start stop : UInt32)

/-- Without a failure, there is an array. -/
theorem searchAll_of_no_failure {asked : List Int32}
    (here : hostStatuses re text options maxStack retry = some asked)
    (none_fails : ∀ status ∈ asked, ¬ status < mismatchStatus) :
    ∃ array, searchAll (some re) text start stop options maxStack retry =
      some ⟨0, some array⟩ := by
  have absent : Scan.firstFailure? asked = none := by
    rw [Scan.firstFailure?, List.find?_eq_none]
    intro status mem
    simpa using none_fails status mem
  obtain ⟨regions, answered⟩ := searchAll_of_statuses here start stop
  rw [absent] at answered
  exact ⟨_, answered⟩

/-- The first failure is the answer. -/
theorem searchAll_of_failure {earlier later : List Int32} {status : Int32}
    (here : hostStatuses re text options maxStack retry = some (earlier ++ status :: later))
    (first : ∀ other ∈ earlier, ¬ other < mismatchStatus) (below : status < mismatchStatus) :
    searchAll (some re) text start stop options maxStack retry = some ⟨status, none⟩ := by
  have failure : Scan.firstFailure? (earlier ++ status :: later) = some status := by
    rw [Scan.firstFailure?, List.find?_eq_some_iff_append]
    refine ⟨by simpa using below, earlier, later, rfl, ?_⟩
    intro other mem
    simpa using first other mem
  obtain ⟨regions, answered⟩ := searchAll_of_statuses here start stop
  rw [failure] at answered
  exact answered

/-- Without an answer, there is no end to the statuses. -/
theorem searchAll_eq_none_iff :
    searchAll (some re) text start stop options maxStack retry = none ↔
      hostStatuses re text options maxStack retry = none := by
  rw [searchAll_eq, Scan.regions, hostStatuses]
  simp only [Option.map_eq_none_iff]

/-- A failure the scan is led to is the answer, whatever has been before. -/
theorem searchAll_of_leads {there : Standing Unit}
    (leads : (hostScan re text options maxStack retry).Leads (fun u _ => (u, .resume))
      (.first 0 ()) there) (inside : there.cursor ≤ text.length)
    (below : (re.search there.asked ((hostScan re text options maxStack retry).query there.cursor)
      there.region.clear).1 < mismatchStatus) :
    searchAll (some re) text start stop options maxStack retry = some ⟨(re.search there.asked
      ((hostScan re text options maxStack retry).query there.cursor) there.region.clear).1,
        none⟩ := by
  obtain ⟨full, ends, outcome⟩ := leads.exists_failed (Nat.le_refl _) inside below
  have made : (hostScan re text options maxStack retry).runAll 0 = some full :=
    (Scan.run_eq_some_iff hostScan_inRange).mpr ends
  rw [searchAll_of_run made, outcome]
  rfl

/-- There is an answer if matches lie within the text, at or after the cursor. -/
theorem isSome_searchAll (sound : (hostScan re text options maxStack retry).Sound) :
    (searchAll (some re) text start stop options maxStack retry).isSome := by
  obtain ⟨full, made⟩ := Scan.Sound.exists_run sound (fun u _ => (u, .resume)) 0 ()
  rw [searchAll_of_run made]
  rfl

end All

/-! ## 4. Compiling -/

section Compiling

variable (a : CompileAnswer)

/-- A host is told the status, and has a handle and names if it is 0 and there
is a regex. -/
theorem adopt_eq :
    adopt a = match a.regex? with
      | some re =>
        if a.status = 0 then ⟨some re, 0, some (.ofTable re.names)⟩ else ⟨none, a.status, none⟩
      | none => ⟨none, a.status, none⟩ := by
  rw [adopt, CompileAnswer.toExcept]
  cases a.regex? with
  | none => simp only [Error.code, a.code_failure]
  | some re =>
    by_cases success : a.status = 0
    · simp only [if_pos success]
    · simp only [if_neg success, Error.code, a.code_failure]

theorem result_adopt : (adopt a).result = a.status := by
  rw [adopt_eq]
  split
  · split
    · rename_i success
      exact success.symm
    · rfl
  · rfl

theorem isSome_regex_adopt : (adopt a).regex.isSome ↔ a.status = 0 ∧ a.regex?.isSome := by
  rw [adopt_eq]
  cases a.regex? with
  | none => simp
  | some re => by_cases success : a.status = 0 <;> simp [success]

theorem isSome_groupNames_adopt : (adopt a).groupNames.isSome = (adopt a).regex.isSome := by
  rw [adopt_eq]
  cases a.regex? with
  | none => rfl
  | some re => by_cases success : a.status = 0 <;> simp [success]

end Compiling

/-! ## 5. All entry points -/

/-- **Statuses survive.** Whatever the engine answers to a search within the
text, it is asked once, and a host gets the status, with the groups of the
region unless the status is a failure. A refused search is an invalid argument
without groups, and the engine is not asked: in any monad, the search is a mere
value.

For all matches a host gets 0 and an array, or the first failure and no array.
It is left without an answer only if the engine leads the scan on without an
end, and never fails: not by an engine that answers within the text, from the
cursor on, and not after a search that fails.

For a compilation it gets the status; and where status 0 comes with a regex and
no other does, as it is here, 0 comes with a handle and with names, and no other
status with either. -/
theorem statuses_survive {m : Type → Type} [Monad m] [LawfulMonad m]
    (text : Buffer) (start stop options maxStack retry : UInt32) :
    let q := hostQuery text start stop options maxStack retry
    let acting (ask? : Option (Query → Region → m (Int32 × Region))) :=
      searchFirstBy ask? text start stop options maxStack retry
    let first (handle : Handle) := searchFirst handle text start stop options maxStack retry
    let scan (re : Regex) := hostScan re text options maxStack retry
    let all (handle : Handle) := searchAll handle text start stop options maxStack retry
    let statuses (re : Regex) := hostStatuses re text options maxStack retry
    ((start.toNat ≤ text.length ∧ stop.toNat ≤ text.length →
        (∀ ask, acting (some ask) = carried <$> ask q .empty) ∧
          ∀ re, first (some re) = carried (re.search 0 q .empty)) ∧
      (∀ status region, (carried (status, region)).Carries status region) ∧
      (∀ ask?, Refused ask? text start stop → acting ask? = pure ⟨-30, .empty⟩) ∧
      (∀ handle, Refused handle text start stop → first handle = ⟨-30, .empty⟩) ∧
      ∀ handle, first handle = Id.run (searchFirstBy (handle.map fun re => re.search 0)
        text start stop options maxStack retry)) ∧
    ((∀ re asked, statuses re = some asked → (∀ status ∈ asked, -1 ≤ status) →
        ∃ array, all (some re) = some ⟨0, some array⟩) ∧
      (∀ re earlier status later, statuses re = some (earlier ++ status :: later) →
        (∀ other ∈ earlier, -1 ≤ other) → status < -1 → all (some re) = some ⟨status, none⟩) ∧
      (∀ re, all (some re) = none ↔ statuses re = none) ∧
      (∀ re, (scan re).Sound → (all (some re)).isSome) ∧
      (∀ re there, (scan re).Leads (fun u _ => (u, .resume)) (.first 0 ()) there →
        there.cursor ≤ text.length →
        let status := (re.search there.asked ((scan re).query there.cursor) there.region.clear).1
        status < -1 → all (some re) = some ⟨status, none⟩) ∧
      all none = some ⟨-30, none⟩) ∧
    (∀ a : CompileAnswer, (adopt a).result = a.status ∧
      (a.Lawful → ((adopt a).result = 0 ↔ (adopt a).regex.isSome) ∧
        ((adopt a).regex.isSome ↔ (adopt a).groupNames.isSome))) ∧
    ∀ (pattern : Buffer) (mask : UInt32) (grammar : Option Definition),
      let a := Regex.compileAnswer pattern.bytes mask (grammar.getD (.ofFlavour .standard))
      newRegex pattern mask grammar = adopt a ∧ a.Lawful := by
  intro q acting first scan all statuses
  refine ⟨⟨fun inRange => ⟨fun ask => searchFirstBy_inRange inRange,
      fun re => searchFirst_inRange re inRange⟩, carries_carried,
      fun ask? refused => searchFirstBy_of_refused refused,
      fun handle refused => searchFirst_of_refused refused, fun _ => rfl⟩,
    ⟨?_, ?_, fun re => searchAll_eq_none_iff start stop,
      fun re sound => isSome_searchAll start stop sound,
      fun re there leads inside below => searchAll_of_leads start stop leads inside below, rfl⟩,
    fun a => ⟨result_adopt a, fun lawful => ⟨?_, ?_⟩⟩,
    fun pattern mask grammar => ⟨rfl, Regex.lawful_compileAnswer _ _ _⟩⟩
  · intro re asked here fine
    exact searchAll_of_no_failure start stop here fun status mem =>
      Int32.not_lt.mpr (fine status mem)
  · intro re earlier status later here fine below
    exact searchAll_of_failure start stop here
      (fun other mem => Int32.not_lt.mpr (fine other mem)) below
  · rw [result_adopt, isSome_regex_adopt]
    exact ⟨fun zero => ⟨zero, lawful.mp zero⟩, And.left⟩
  · rw [isSome_groupNames_adopt]

/-- An engine that finds the second byte, then the first, and after that runs out
of retries. It keeps to no order and fails all the same. -/
def tiring : Regex where
  search past _ _ := match past with
    | 0 => (1, .ofSpans [some ⟨1, 2⟩])
    | 1 => (0, .ofSpans [some ⟨0, 1⟩])
    | _ => (-17, .absent 1)
  probe _ := 1
  groupCount := 0
  names := ⟨[]⟩
  flavour? := none

/-- The same engine, with a log of where it has been asked from. -/
def loggedTiring (q : Query) (r : Region) : StateM (List Nat) (Int32 × Region) := do
  modify (fun log => log ++ [q.start])
  return tiring.search 0 q r

/-- The bytes of `ab`. -/
def pairBuffer : Buffer := .ofParts (some "ab".toByteArray) 2

/-- From 1, the search is in the log and the answer is its status. From 3, which
is not within the text, nothing is in the log. The search after the second match
fails, and so does the search for all matches. -/
theorem statuses_survive_tiring :
    (searchFirstBy (some loggedTiring) pairBuffer 1 2 0 0 0).run [] =
      (⟨1, ⟨some [1], some [2], 1⟩⟩, [1]) ∧
    (searchFirstBy (some loggedTiring) pairBuffer 3 2 0 0 0).run [] =
      (⟨-30, ⟨none, none, 0⟩⟩, []) ∧
    hostStatuses tiring pairBuffer 0 0 0 = some [1, 0, -17] ∧
    searchAll (some tiring) pairBuffer 0 0 0 0 0 = some ⟨-17, none⟩ ∧
    (adopt ⟨0, some tiring, none⟩).groupNames.isSome := by
  have inside := statuses_survive (m := StateM (List Nat)) pairBuffer 1 2 0 0 0
  have outside := statuses_survive (m := StateM (List Nat)) pairBuffer 3 2 0 0 0
  have asked : searchFirstBy (some loggedTiring) pairBuffer 1 2 0 0 0 =
      carried <$> loggedTiring (hostQuery pairBuffer 1 2 0 0 0) .empty :=
    (inside.1.1 ⟨by decide, by decide⟩).1 loggedTiring
  have refused : searchFirstBy (some loggedTiring) pairBuffer 3 2 0 0 0 =
      pure ⟨-30, .empty⟩ := outside.1.2.2.1 (some loggedTiring) (Or.inr (Or.inl (by decide)))
  have statuses : hostStatuses tiring pairBuffer 0 0 0 = some [1, 0, -17] := by cbv
  have lawful : CompileAnswer.Lawful ⟨0, some tiring, none⟩ := by simp [CompileAnswer.Lawful]
  have compiled := inside.2.2.1 ⟨0, some tiring, none⟩
  have fine : ∀ other ∈ [(1 : Int32), 0], -1 ≤ other := by
    rw [List.forall_mem_cons, List.forall_mem_singleton]
    decide
  refine ⟨by rw [asked]; rfl, by rw [refused]; rfl, statuses, ?_, ?_⟩
  · exact (statuses_survive (m := Id) pairBuffer 0 0 0 0 0).2.1.2.1 tiring [1, 0] (-17) [] statuses
      fine (by decide)
  · exact ((compiled.2 lawful).1.trans (compiled.2 lawful).2).mp compiled.1

end Host

end PatternSearch
