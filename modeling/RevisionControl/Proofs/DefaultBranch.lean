import RevisionControl.Proofs.Operations

/-!
# Proofs: finding the default branch

The strategies are tried in order, each on the host that the one before it left. The first that does
not lead nowhere settles the search, with a branch or with its own failure, and none is tried after
it; if all lead nowhere, the failure tells of each of them.

A strategy leads nowhere if it fails in one of the ways expected of it (`Error.Expected`). The other
failures that it can have (`Error.Unexpected`) come from the host or from output that is no text.
-/

namespace RevisionControl

open Host

namespace Error

/-- A failure that is expected of a strategy: the tool failed, its output is of no use, or the
remote is not clear. -/
def Expected : Error → Prop
  | .commandFailed _ | .unexpectedOutput _ _ | .ambiguousRemote _ => True
  | _ => False

/-- A failure of a strategy that says nothing about the branch: the host refused, or the output is
no text. -/
def Unexpected : Error → Prop
  | .io _ | .notUtf8 _ => True
  | _ => False

end Error

/-- An outcome is a text that meets a condition, or a failure that a strategy can have. -/
def Sought (good : String → Prop) : Except Error String → Prop
  | .ok text => good text
  | .error error => error.Expected ∨ error.Unexpected

/-- A launch fails with a failure of the host, of the tool, or of decoding. -/
theorem Launcher.yields_run (launcher : Launcher) (arguments : List String) :
    HostM.Yields (launcher.run arguments) (Sought fun _ => True) := by
  intro host
  rcases launcher.run_cases arguments host with ⟨fault, _, hrun⟩ | ⟨call, _, hrun⟩
  · rw [hrun]
    exact Or.inr trivial
  · rw [hrun]
    show Sought _ (result _ _)
    unfold result
    split
    · split
      · trivial
      · exact Or.inr trivial
    · exact Or.inl trivial

namespace Git

/-! ## What the strategies find -/

theorem branchBehindRemote?_ne_empty {s branch : String} (h : branchBehindRemote? s = some branch) :
    branch ≠ "" := by
  unfold branchBehindRemote? at h
  split at h
  · cases h
  · cases h
  · rename_i hne hrest
    split at h
    · cases h
    · cases h
      rw [Ne, String.ofList_eq_empty_iff]
      exact hne

theorem headTargetHere?_ne_nil {cs branch : List Char} (h : headTargetHere? cs = some branch) :
    branch ≠ [] := by
  simp only [headTargetHere?, Option.bind_eq_bind, Option.bind_eq_some_iff] at h
  obtain ⟨_, _, _, _, _, _, _, _, _, _, h⟩ := h
  split at h
  · cases h
  · rename_i hne
    cases h
    simpa using hne

theorem headTarget?_ne_empty {listing branch : String} (h : headTarget? listing = some branch) :
    branch ≠ "" := by
  have hchars : ∀ cs found, headTargetChars? cs = some found → found ≠ [] := by
    intro cs
    induction cs with
    | nil => intro found hf; cases hf
    | cons c rest ih =>
      intro found hf
      unfold headTargetChars? at hf
      split at hf
      · rename_i hhere
        cases hf
        exact headTargetHere?_ne_nil hhere
      · exact ih found hf
  obtain ⟨found, hf, rfl⟩ := Option.map_eq_some_iff.mp h
  rw [Ne, String.ofList_eq_empty_iff]
  exact hchars _ found hf

theorem usualBranch?_ne_empty {listing branch : String} (h : usualBranch? listing = some branch) :
    branch ≠ "" := by
  have hmem := List.mem_of_find?_eq_some h
  simp only [usualBranches, List.mem_cons, List.not_mem_nil, or_false] at hmem
  rcases hmem with rfl | rfl <;> decide

theorem chooseListedRemote_sought (listing preferred : String) :
    Sought (fun _ => True) (chooseListedRemote listing preferred) := by
  unfold chooseListedRemote chooseRemote
  split
  · trivial
  · split
    · trivial
    · exact Or.inl trivial

variable (git : Launcher)

theorem yields_remoteName : HostM.Yields (remoteName git) (Sought fun _ => True) := by
  refine (git.yields_run trackedQuery).outcome_bind fun outcome htracked => ?_
  cases outcome with
  | ok tracked => exact fun _ => trivial
  | error reason =>
    dsimp only
    split
    · refine (git.yields_run ["remote"]).bind (fun listing _ => ?_) fun _ h => h
      exact fun _ => chooseListedRemote_sought listing _
    · exact fun _ => htracked

/-- The first strategy finds a branch with a name, or fails in one of its ways. -/
theorem yields_recordedBranch : HostM.Yields (recordedBranch git) (Sought (· ≠ "")) := by
  refine (yields_remoteName git).bind (fun remote _ => ?_) fun _ h => h
  refine (git.yields_run _).bind (fun output _ => ?_) fun _ h => h
  split
  · rename_i branch hbranch
    exact fun _ => branchBehindRemote?_ne_empty hbranch
  · exact fun _ => Or.inl trivial

theorem yields_remoteBranch : HostM.Yields (remoteBranch git) (Sought (· ≠ "")) := by
  refine (yields_remoteName git).bind (fun remote _ => ?_) fun _ h => h
  refine (git.yields_run _).bind (fun output _ => ?_) fun _ h => h
  split
  · rename_i branch hbranch
    exact fun _ => headTarget?_ne_empty hbranch
  · exact fun _ => Or.inl trivial

theorem yields_localBranch : HostM.Yields (localBranch git) (Sought (· ≠ "")) := by
  refine (git.yields_run _).bind (fun output _ => ?_) fun _ h => h
  split
  · rename_i branch hbranch
    exact fun _ => usualBranch?_ne_empty hbranch
  · exact fun _ => Or.inl trivial

theorem yields_strategy (strategy : Strategy) (h : strategy ∈ strategies) :
    HostM.Yields (strategy.find git) (Sought (· ≠ "")) := by
  simp only [strategies, List.mem_cons, List.not_mem_nil, or_false] at h
  rcases h with rfl | rfl | rfl
  · exact yields_recordedBranch git
  · exact yields_remoteBranch git
  · exact yields_localBranch git

/-! ## The search -/

/-- What came of trying a strategy. -/
structure Trial where
  /-- The name of the strategy. -/
  strategy : String
  /-- What it found, or how it failed. -/
  outcome : Except Error String
  /-- The host that it left. -/
  after : Host

namespace Trial

/-- Whether the strategy led nowhere. -/
def LedNowhere (trial : Trial) : Prop :=
  ∃ error, trial.outcome = .error error ∧ error.Expected

/-- What is told of a strategy that failed: its name and the message of its failure. -/
def report (trial : Trial) : String :=
  match trial.outcome with
  | .ok _ => trial.strategy
  | .error error => trial.strategy ++ ": " ++ error.message

end Trial

/-- What comes of some strategies if each is tried on the host that the one before it left. -/
def trials : List Strategy → Host → List Trial
  | [], _ => []
  | strategy :: more, host =>
    let (outcome, after) := (strategy.find git).run host
    ⟨strategy.name, outcome, after⟩ :: trials more after

theorem leadsNowhere_iff (error : Error) : leadsNowhere error = true ↔ error.Expected := by
  cases error <;> simp [leadsNowhere, Error.Expected]

variable {git}

/-- One step of the search. -/
theorem findBranch_cons (strategy : Strategy) (more : List Strategy) (attempts : List String)
    (host : Host) :
    (findBranch git (strategy :: more) attempts).run host =
      match (strategy.find git).run host with
      | (.ok branch, after) => (.ok branch, after)
      | (.error error, after) =>
        if leadsNowhere error then
          (findBranch git more (attempts ++ [strategy.name ++ ": " ++ error.message])).run after
        else (.error error, after) := by
  rw [findBranch, HostM.run_bind, HostM.run_outcome]
  generalize (strategy.find git).run host = ran
  obtain ⟨outcome, after⟩ := ran
  cases outcome with
  | ok branch => rfl
  | error error =>
    dsimp only
    split <;> rfl

/-- A strategy that leads nowhere hands over to those after it. -/
theorem findBranch_of_ledNowhere {strategy : Strategy} {more : List Strategy}
    {attempts : List String} {host : Host} {trial : Trial} {later : List Trial}
    (h : trials git (strategy :: more) host = trial :: later) (hnowhere : trial.LedNowhere) :
    trials git more trial.after = later ∧
      (findBranch git (strategy :: more) attempts).run host =
        (findBranch git more (attempts ++ [trial.report])).run trial.after := by
  rw [trials] at h
  rw [findBranch_cons]
  generalize (strategy.find git).run host = ran at h ⊢
  obtain ⟨outcome, after⟩ := ran
  obtain ⟨rfl, rfl⟩ := List.cons.inj h
  obtain ⟨error, herror, hexpected⟩ := hnowhere
  dsimp only at herror
  subst herror
  dsimp only
  rw [if_pos ((leadsNowhere_iff error).mpr hexpected)]
  exact ⟨rfl, rfl⟩

/-- The first strategy that does not lead nowhere settles the search, and leaves the host as the
search leaves it. -/
theorem findBranch_of_settled {strategies : List Strategy} {host : Host} {before later : List Trial}
    {trial : Trial} (h : trials git strategies host = before ++ trial :: later)
    (hbefore : ∀ earlier ∈ before, earlier.LedNowhere) (hsettled : ¬ trial.LedNowhere)
    (attempts : List String) :
    (findBranch git strategies attempts).run host = (trial.outcome, trial.after) := by
  induction before generalizing strategies host attempts with
  | nil =>
    cases strategies with
    | nil => cases h
    | cons strategy more =>
      rw [trials] at h
      rw [findBranch_cons]
      generalize (strategy.find git).run host = ran at h ⊢
      obtain ⟨outcome, after⟩ := ran
      obtain ⟨rfl, -⟩ := List.cons.inj h
      cases outcome with
      | ok branch => rfl
      | error error =>
        dsimp only
        rw [if_neg]
        intro hnowhere
        exact hsettled ⟨error, rfl, (leadsNowhere_iff error).mp hnowhere⟩
  | cons first before ih =>
    cases strategies with
    | nil => cases h
    | cons strategy more =>
      obtain ⟨hmore, hrun⟩ :=
        findBranch_of_ledNowhere h (hbefore first List.mem_cons_self)
      rw [hrun]
      exact ih hmore (fun t ht => hbefore t (List.mem_cons_of_mem _ ht)) _

/-- If every strategy leads nowhere, the failure reports on each of them. -/
theorem findBranch_of_exhausted {strategies : List Strategy} {host : Host}
    (h : ∀ trial ∈ trials git strategies host, trial.LedNowhere) (attempts : List String) :
    (findBranch git strategies attempts).run host =
      (.error (.defaultBranchNotFound (attempts ++ (trials git strategies host).map Trial.report)),
        ((trials git strategies host).map Trial.after).getLastD host) := by
  induction strategies generalizing host attempts with
  | nil =>
    rw [trials, List.map_nil, List.append_nil]
    rfl
  | cons strategy more ih =>
    obtain ⟨trial, later, htrials⟩ : ∃ trial later,
        trials git (strategy :: more) host = trial :: later := ⟨_, _, rfl⟩
    rw [htrials] at h ⊢
    obtain ⟨hmore, hrun⟩ := findBranch_of_ledNowhere htrials (h trial List.mem_cons_self)
    rw [hrun, ih (by rw [hmore]; exact fun t ht => h t (List.mem_cons_of_mem _ ht)), hmore]
    rw [List.append_assoc, List.map_cons, List.map_cons, List.getLastD_cons]
    rfl

/-- Of some trials either all led nowhere, or there is a first that did not. -/
theorem Trial.all_or_first (tried : List Trial) :
    (∀ trial ∈ tried, trial.LedNowhere) ∨
      ∃ before trial later, tried = before ++ trial :: later ∧
        (∀ earlier ∈ before, earlier.LedNowhere) ∧ ¬ trial.LedNowhere := by
  induction tried with
  | nil => exact Or.inl fun _ h => absurd h List.not_mem_nil
  | cons first more ih =>
    by_cases hfirst : first.LedNowhere
    · rcases ih with hall | ⟨before, trial, later, rfl, hbefore, htrial⟩
      · exact Or.inl (List.forall_mem_cons.mpr ⟨hfirst, hall⟩)
      · exact Or.inr ⟨first :: before, trial, later, rfl,
          List.forall_mem_cons.mpr ⟨hfirst, hbefore⟩, htrial⟩
    · exact Or.inr ⟨[], first, more, rfl, fun _ h => absurd h List.not_mem_nil, hfirst⟩

/-- A trial that did not lead nowhere found a branch with a name, or failed unexpectedly. -/
theorem Trial.sought_of_mem {host : Host} {trial : Trial}
    (h : trial ∈ trials git strategies host) : Sought (· ≠ "") trial.outcome := by
  have hall : ∀ (more : List Strategy) (start : Host), (∀ s ∈ more, s ∈ strategies) →
      ∀ t ∈ trials git more start, Sought (· ≠ "") t.outcome := by
    intro more
    induction more with
    | nil => exact fun _ _ _ ht => absurd ht List.not_mem_nil
    | cons strategy more ih =>
      intro start hsub t ht
      rcases List.mem_cons.mp ht with rfl | ht
      · exact yields_strategy git strategy (hsub strategy List.mem_cons_self) start
      · exact ih _ (fun s hs => hsub s (List.mem_cons_of_mem _ hs)) t ht
  exact hall strategies host (fun _ hs => hs) trial h

/-- The default branch of a Git working copy is what the first strategy finds that does not fail in
an expected way, each strategy being tried where the one before it left the host.

A branch that is found has a name. A failure of another kind is the failure of the search, and the
host stays as the strategy that settles the search leaves it: nothing is started after it. If all
three strategies fail as expected, the failure reports on them in order. So the search itself never
fails in an expected way, and all it does are at most seven calls. -/
theorem defaultBranch_settled_by_first (git : Launcher) (host : Host) :
    let first := (recordedBranch git).run host
    let second := (remoteBranch git).run first.2
    let third := (localBranch git).run second.2
    let tried : List Trial :=
      [⟨"cloned metadata", first.1, first.2⟩, ⟨"remote query", second.1, second.2⟩,
        ⟨"local branch scan", third.1, third.2⟩]
    let result := (WorkingCopy.defaultBranch ⟨.git, git⟩).run host
    (∀ before trial later, tried = before ++ trial :: later →
      (∀ earlier ∈ before, ∃ error, earlier.outcome = .error error ∧ error.Expected) →
      (∀ branch, trial.outcome = .ok branch →
        result = (.ok branch, trial.after) ∧ branch ≠ "") ∧
      (∀ error, trial.outcome = .error error → ¬ error.Expected →
        result = (.error error, trial.after) ∧ error.Unexpected)) ∧
    (∀ e₁ e₂ e₃, first.1 = .error e₁ → e₁.Expected → second.1 = .error e₂ → e₂.Expected →
      third.1 = .error e₃ → e₃.Expected →
      result = (.error (.defaultBranchNotFound
        ["cloned metadata: " ++ e₁.message, "remote query: " ++ e₂.message,
          "local branch scan: " ++ e₃.message]), third.2)) ∧
    (∀ error, result.1 = .error error → ¬ error.Expected) ∧
    ∃ calls, git.Starts host calls result.2 ∧ result.2.calls = host.calls ++ calls ∧
      calls.length ≤ 7 := by
  intro first second third tried result
  have htried : trials git strategies host = tried := rfl
  refine ⟨fun before trial later h hbefore => ?_, ?_, ?_, ?_⟩
  · have hsettled : ¬ trial.LedNowhere → result = (trial.outcome, trial.after) := fun hn =>
      findBranch_of_settled (htried.trans h) hbefore hn []
    have hmem : trial ∈ trials git strategies host := by
      rw [htried, h]
      exact List.mem_append_right _ List.mem_cons_self
    have hsought := Trial.sought_of_mem hmem
    constructor
    · intro branch hbranch
      rw [hbranch] at hsettled hsought
      refine ⟨hsettled ?_, hsought⟩
      rintro ⟨error, herror, -⟩
      rw [hbranch] at herror
      cases herror
    · intro error herror hexpected
      rw [herror] at hsettled hsought
      refine ⟨hsettled ?_, hsought.resolve_left hexpected⟩
      rintro ⟨error', herror', hexpected'⟩
      rw [herror] at herror'
      cases herror'
      exact hexpected hexpected'
  · intro e₁ e₂ e₃ h₁ hx₁ h₂ hx₂ h₃ hx₃
    have hall : ∀ trial ∈ tried, trial.LedNowhere := by
      simp only [tried, List.forall_mem_cons]
      exact ⟨⟨e₁, h₁, hx₁⟩, ⟨e₂, h₂, hx₂⟩, ⟨e₃, h₃, hx₃⟩, fun _ h => absurd h List.not_mem_nil⟩
    refine (findBranch_of_exhausted (htried ▸ hall) []).trans ?_
    rw [htried]
    simp only [tried, List.map_cons, List.map_nil, List.nil_append, Trial.report, h₁, h₂, h₃]
    rfl
  · intro error herror hexpected
    rcases Trial.all_or_first tried with hall | ⟨before, trial, later, h, hbefore, hsettled⟩
    · have hresult := findBranch_of_exhausted (htried ▸ hall) []
      rw [show result = _ from hresult] at herror
      cases herror
      exact hexpected
    · have hresult := findBranch_of_settled (htried.trans h) hbefore hsettled []
      rw [show result = _ from hresult] at herror
      exact hsettled ⟨error, herror, hexpected⟩
  · obtain ⟨calls, hstarts, hle⟩ := startsAtMost_defaultBranch git host
    exact ⟨calls, hstarts, hstarts.calls_eq, hle⟩

end Git

end RevisionControl
