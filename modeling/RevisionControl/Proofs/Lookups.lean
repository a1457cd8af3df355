import RevisionControl.Proofs.Attempts
import RevisionControl.Pushlog.Lookup

/-!
# Proofs: lookups in a row

Lookups that share a server with known responses take their parts of these one after the other. The
part of a lookup (`IsSegment`) ends with the first body, and otherwise holds as many failures as the
policy allows attempts; its last response alone decides what the lookup gives.

The responses are seen as going on for ever: behind those that are known every request fails in the
same way (`Exchange.upcoming`).
-/

namespace RevisionControl.Pushlog

/-- What a request gets: a body, or a failure. -/
abbrev Response := Except Error String

namespace Exchange

/-- The responses that the next requests get. Where none is left, a request fails. -/
def upcoming (exchange : Exchange) (count : Nat) : List Response :=
  exchange.responses.take count ++
    List.replicate (count - exchange.responses.length) (.error exchange.exhausted)

/-- The exchange after some more requests to an address. -/
def after (exchange : Exchange) (count : Nat) (url : String) : Exchange where
  responses := exchange.responses.drop count
  exhausted := exchange.exhausted
  requested := exchange.requested ++ List.replicate count url

theorem upcoming_succ (exchange : Exchange) (count : Nat) (url : String) :
    exchange.upcoming (count + 1) =
      ((Exchange.get url).run exchange).1 :: (exchange.after 1 url).upcoming count := by
  obtain ⟨responses, exhausted, requested⟩ := exchange
  cases responses with
  | nil => simp [upcoming, after, Exchange.get, List.replicate_succ]
  | cons response more => simp [upcoming, after, Exchange.get]

theorem get_after (exchange : Exchange) (url : String) :
    ((Exchange.get url).run exchange).2 = exchange.after 1 url := by
  obtain ⟨responses, exhausted, requested⟩ := exchange
  cases responses <;> simp [after, Exchange.get]

theorem after_after (exchange : Exchange) (few more : Nat) (url : String) :
    (exchange.after few url).after more url = exchange.after (few + more) url := by
  simp [after, List.append_assoc, List.replicate_append_replicate]

/-- What is requested later on follows what is requested first. -/
theorem upcoming_add (exchange : Exchange) (few more : Nat) (url : String) :
    exchange.upcoming (few + more) =
      exchange.upcoming few ++ (exchange.after few url).upcoming more := by
  induction few generalizing exchange with
  | zero => simp [upcoming, after]
  | succ few ih =>
    rw [Nat.add_right_comm few 1 more, upcoming_succ exchange (few + more) url,
      upcoming_succ exchange few url, ih, after_after, Nat.add_comm 1 few, List.cons_append]

theorem length_upcoming (exchange : Exchange) (count : Nat) :
    (exchange.upcoming count).length = count := by
  rw [upcoming, List.length_append, List.length_take, List.length_replicate]
  omega

end Exchange

/-! ## The part of one lookup -/

/-- Whether some responses end in a body. -/
def EndsInBody (responses : List Response) : Prop :=
  ∃ body, responses.getLast? = some (.ok body)

/-- The part of the next responses that a lookup takes: the shortest prefix that ends in a body, or
all of them if none is a body. -/
def IsSegment (next taken : List Response) : Prop :=
  (taken <+: next ∧ EndsInBody taken ∧
    ∀ other, other <+: next → EndsInBody other → taken.length ≤ other.length) ∨
  ((∀ body, .ok body ∉ next) ∧ taken = next)

/-- The part up to the first body. -/
def segment : List Response → List Response
  | [] => []
  | .ok body :: _ => [.ok body]
  | .error error :: more => .error error :: segment more

theorem endsInBody_cons {error : Error} {responses : List Response} :
    EndsInBody (.error error :: responses) ↔ EndsInBody responses := by
  unfold EndsInBody
  cases responses with
  | nil => simp
  | cons response more => rw [List.getLast?_cons_cons]

theorem isSegment_segment (next : List Response) : IsSegment next (segment next) := by
  induction next with
  | nil => exact Or.inr ⟨fun _ h => absurd h List.not_mem_nil, rfl⟩
  | cons response more ih =>
    cases response with
    | ok body =>
      refine Or.inl ⟨⟨more, rfl⟩, ⟨body, rfl⟩, fun other _ hends => ?_⟩
      obtain ⟨last, hlast⟩ := hends
      cases other with
      | nil => cases hlast
      | cons => exact Nat.succ_le_succ (Nat.zero_le _)
    | error error =>
      rcases ih with ⟨hstart, hends, hshortest⟩ | ⟨hnone, hall⟩
      · refine Or.inl ⟨?_, endsInBody_cons.mpr hends, fun other hother hbody => ?_⟩
        · exact (List.prefix_cons_inj _).mpr hstart
        · cases other with
          | nil =>
            obtain ⟨body, hlast⟩ := hbody
            cases hlast
          | cons first rest =>
            obtain ⟨rfl, hrest⟩ := List.cons_prefix_cons.mp hother
            exact Nat.succ_le_succ (hshortest rest hrest (endsInBody_cons.mp hbody))
      · refine Or.inr ⟨fun body hmem => ?_, ?_⟩
        · rcases List.mem_cons.mp hmem with h | h
          · cases h
          · exact hnone body h
        · rw [segment, hall]

/-- A run of attempts takes a segment: its outcome is the last response of the segment, and every
request is to the same address. -/
theorem attemptAgain_get (url : String) (spare : Nat) (exchange : Exchange) :
    let taken := segment (exchange.upcoming (spare + 1))
    let ran := attemptAgain (Exchange.get url) spare exchange
    taken.getLast? = some ran.1.outcome ∧ ran.2 = exchange.after taken.length url := by
  induction spare generalizing exchange with
  | zero =>
    intro taken ran
    have htaken : taken = segment [((Exchange.get url).run exchange).1] := by
      have hnone : (exchange.after 1 url).upcoming 0 = [] := by simp [Exchange.upcoming]
      simp only [taken, Exchange.upcoming_succ exchange 0 url, hnone]
    have hran : ran = (⟨((Exchange.get url).run exchange).1, 1, 0⟩,
        ((Exchange.get url).run exchange).2) := rfl
    rw [htaken, hran, Exchange.get_after]
    cases ((Exchange.get url).run exchange).1 <;> exact ⟨rfl, rfl⟩
  | succ spare ih =>
    intro taken ran
    have htaken : taken = segment (((Exchange.get url).run exchange).1 ::
        (exchange.after 1 url).upcoming (spare + 1)) := by
      simp only [taken, Exchange.upcoming_succ exchange (spare + 1) url]
    have hran := attemptAgain_succ (Exchange.get url) spare exchange
    have hafter := Exchange.get_after exchange url
    rw [htaken, show ran = _ from hran]
    generalize (Exchange.get url).run exchange = response at hafter ⊢
    obtain ⟨outcome, middle⟩ := response
    dsimp only at hafter
    subst hafter
    cases outcome with
    | ok body => exact ⟨rfl, rfl⟩
    | error error =>
      obtain ⟨hlast, hstate⟩ := ih (exchange.after 1 url)
      dsimp only [segment]
      refine ⟨?_, ?_⟩
      · rw [List.getLast?_cons, hlast]
        rfl
      · rw [hstate, Exchange.after_after, List.length_cons, Nat.add_comm]

/-! ## Lookups -/

/-- A lookup requests until the policy ends it, and decodes what the last request got. -/
theorem lookUp_run {σ : Type} (settings : Settings) (fetch : Fetch σ)
    (repository revision : String) (s : σ) :
    (lookUp settings fetch repository revision).run s =
      (((settings.retry.run (fetch (lookupUrl repository revision))) s).1.outcome >>=
          decodeAnswer repository revision,
        ((settings.retry.run (fetch (lookupUrl repository revision))) s).2) := by
  show (match settings.retry.run (fetch (lookupUrl repository revision)) s with
    | (run, after) =>
      (ExceptT.mk (pure run.outcome) >>= fun body =>
        ExceptT.mk (pure (decodeAnswer repository revision body)) :
          ExceptT Error (StateM σ) Push).run after) = _
  obtain ⟨run, after⟩ := settings.retry.run (fetch (lookupUrl repository revision)) s
  obtain ⟨outcome, calls, pauses⟩ := run
  cases outcome <;> rfl

/-- Lookups one after the other, each a repository and a revision, with the same settings. -/
def lookUpAll {σ : Type} (settings : Settings) (fetch : Fetch σ) :
    List (String × String) → σ → List (Except Error Push) × σ
  | [], s => ([], s)
  | (repository, revision) :: more, s =>
    let (result, s) := (lookUp settings fetch repository revision).run s
    let (results, s) := lookUpAll settings fetch more s
    (result :: results, s)

/-- A lookup, the responses that it took and what it gave. -/
structure Turn where
  /-- The repository asked about. -/
  repository : String
  /-- The revision asked about. -/
  revision : String
  /-- The responses that its requests got, in order. -/
  taken : List Response
  /-- What it gave. -/
  result : Except Error Push

namespace Turn

/-- The addresses that its requests were for. -/
def requested (turn : Turn) : List String :=
  List.replicate turn.taken.length (lookupUrl turn.repository turn.revision)

/-- Whether its result is the one that the last of its responses decides. -/
def Decided (turn : Turn) : Prop :=
  (∃ error, turn.taken.getLast? = some (.error error) ∧ turn.result = .error error) ∨
  (∃ body, turn.taken.getLast? = some (.ok body) ∧
    turn.result = decodeAnswer turn.repository turn.revision body)

end Turn

/-- The responses that some lookups took, in order. -/
def taken (turns : List Turn) : List Response := turns.flatMap Turn.taken

namespace Exchange

/-- The exchange that some lookups leave. -/
def past (exchange : Exchange) (turns : List Turn) : Exchange where
  responses := exchange.responses.drop (taken turns).length
  exhausted := exchange.exhausted
  requested := exchange.requested ++ turns.flatMap Turn.requested

end Exchange

namespace Exchange

variable (exchange : Exchange)

/-- The same responses, with another record of what has been requested. -/
def recording (log : List String) : Exchange := { exchange with requested := log }

theorem upcoming_past (turns : List Turn) (count : Nat) :
    exchange.upcoming ((taken turns).length + count) =
      exchange.upcoming (taken turns).length ++ (exchange.past turns).upcoming count :=
  exchange.upcoming_add _ count ""

theorem past_append (earlier later : List Turn) :
    exchange.past (earlier ++ later) = (exchange.past earlier).past later := by
  simp [past, taken, List.append_assoc]

end Exchange

/-- One lookup of a row: it takes its segment, and its last response decides what it gives. What has
been requested before makes no difference. -/
theorem lookUp_turn (settings : Settings) (exchange : Exchange) (repository revision : String) :
    ∃ turn : Turn, turn.repository = repository ∧ turn.revision = revision ∧
      IsSegment (exchange.upcoming (max settings.retry.attempts.toNat 1)) turn.taken ∧
      turn.Decided ∧
      ∀ log, (lookUp settings Exchange.get repository revision).run (exchange.recording log) =
        (turn.result, (exchange.recording log).past [turn]) := by
  have hlimit : settings.retry.attemptLimit - 1 + 1 = max settings.retry.attempts.toNat 1 := by
    unfold Policy.attemptLimit
    omega
  have hran := fun log => attemptAgain_get (lookupUrl repository revision)
    (settings.retry.attemptLimit - 1) (exchange.recording log)
  rw [hlimit] at hran
  -- The segment is the same for every record.
  let part := segment (exchange.upcoming (max settings.retry.attempts.toNat 1))
  obtain ⟨outcome, houtcome⟩ : ∃ outcome, part.getLast? = some outcome :=
    ⟨_, (hran exchange.requested).1⟩
  let turn : Turn := ⟨repository, revision, part, outcome >>= decodeAnswer repository revision⟩
  refine ⟨turn, rfl, rfl, isSegment_segment _, ?_, fun log => ?_⟩
  · cases outcome with
    | ok body => exact Or.inr ⟨body, houtcome, rfl⟩
    | error error => exact Or.inl ⟨error, houtcome, rfl⟩
  · have hsame := Option.some.inj ((hran log).1.symm.trans houtcome)
    rw [lookUp_run]
    refine Prod.ext ?_ ?_
    · exact congrArg (· >>= decodeAnswer repository revision) hsame
    · refine (hran log).2.trans ?_
      simp [Exchange.after, Exchange.past, taken, Turn.requested, turn, part, Exchange.recording,
        Exchange.upcoming]

theorem lookUpAll_cons {σ : Type} (settings : Settings) (fetch : Fetch σ)
    (repository revision : String) (more : List (String × String)) (s : σ) :
    lookUpAll settings fetch ((repository, revision) :: more) s =
      (((lookUp settings fetch repository revision).run s).1 ::
          (lookUpAll settings fetch more ((lookUp settings fetch repository revision).run s).2).1,
        (lookUpAll settings fetch more
          ((lookUp settings fetch repository revision).run s).2).2) := rfl

/-- The first of some lookups are as if there were no others. -/
theorem lookUpAll_append {σ : Type} (settings : Settings) (fetch : Fetch σ)
    (earlier later : List (String × String)) (s : σ) :
    lookUpAll settings fetch (earlier ++ later) s =
      ((lookUpAll settings fetch earlier s).1 ++
          (lookUpAll settings fetch later (lookUpAll settings fetch earlier s).2).1,
        (lookUpAll settings fetch later (lookUpAll settings fetch earlier s).2).2) := by
  induction earlier generalizing s with
  | nil => rfl
  | cons first earlier ih =>
    obtain ⟨repository, revision⟩ := first
    rw [List.cons_append, lookUpAll_cons, lookUpAll_cons, ih]
    rfl

/-- A segment is part of the responses that it is taken from, from the start on. -/
theorem IsSegment.isPrefix {next part : List Response} (h : IsSegment next part) :
    part <+: next := by
  rcases h with ⟨hstart, -, -⟩ | ⟨-, rfl⟩
  · exact hstart
  · exact List.prefix_refl _

/-- The responses that a lookup takes are the next ones. -/
theorem IsSegment.eq_upcoming {exchange : Exchange} {count : Nat} {part : List Response}
    (h : IsSegment (exchange.upcoming count) part) : part = exchange.upcoming part.length := by
  have hle := h.isPrefix.length_le
  rw [Exchange.length_upcoming] at hle
  obtain ⟨rest, hrest⟩ := h.isPrefix
  have hsplit := exchange.upcoming_add part.length (count - part.length) ""
  rw [Nat.add_sub_cancel' hle, ← hrest] at hsplit
  exact (List.append_inj hsplit (exchange.length_upcoming _).symm).1

/-- Lookups in a row, each with its segment of what the ones before it left. -/
theorem lookUpAll_turns (settings : Settings) (exchange : Exchange)
    (lookups : List (String × String)) :
    ∃ turns : List Turn,
      turns.map (fun turn => (turn.repository, turn.revision)) = lookups ∧
      taken turns = exchange.upcoming (taken turns).length ∧
      (∀ before turn later, turns = before ++ turn :: later →
        IsSegment ((exchange.past before).upcoming (max settings.retry.attempts.toNat 1))
          turn.taken ∧ turn.Decided) ∧
      ∀ log, lookUpAll settings Exchange.get lookups (exchange.recording log) =
        (turns.map Turn.result, (exchange.recording log).past turns) := by
  induction lookups generalizing exchange with
  | nil =>
    refine ⟨[], rfl, ?_, fun before turn later h => ?_, fun log => ?_⟩
    · simp [taken, Exchange.upcoming]
    · cases before <;> cases h
    · simp [lookUpAll, Exchange.past, taken]
  | cons lookup more ih =>
    obtain ⟨repository, revision⟩ := lookup
    obtain ⟨turn, hrepository, hrevision, hsegment, hdecided, hrun⟩ :=
      lookUp_turn settings exchange repository revision
    obtain ⟨turns, hlookups, htaken, hturns, hall⟩ := ih (exchange.past [turn])
    have hcons : taken (turn :: turns) = taken [turn] ++ taken turns := by simp [taken]
    refine ⟨turn :: turns, ?_, ?_, fun before other later h => ?_, fun log => ?_⟩
    · rw [List.map_cons, hlookups, hrepository, hrevision]
    · have hone : taken [turn] = turn.taken := List.flatMap_singleton ..
      rw [hcons, List.length_append, Exchange.upcoming_past, ← htaken, hone,
        ← hsegment.eq_upcoming]
    · cases before with
      | nil =>
        obtain ⟨rfl, rfl⟩ := List.cons.inj h
        have hpast : exchange.past [] = exchange := by simp [Exchange.past, taken]
        rw [hpast]
        exact ⟨hsegment, hdecided⟩
      | cons first before =>
        obtain ⟨rfl, hrest⟩ := List.cons.inj h
        rw [show turn :: before = [turn] ++ before from rfl, Exchange.past_append]
        exact hturns before other later hrest
    · have hrest : lookUpAll settings Exchange.get more ((exchange.recording log).past [turn]) =
          (turns.map Turn.result, ((exchange.recording log).past [turn]).past turns) :=
        hall ((exchange.recording log).past [turn]).requested
      rw [lookUpAll_cons, hrun log, hrest, ← Exchange.past_append]
      rfl

/-- A lookup that gets a body fails only because of what the body holds. -/
theorem decodeAnswer_error {repository revision body : String} {error : Error}
    (h : decodeAnswer repository revision body = .error error) :
    (∃ fault, error = .invalidAnswer (lookupUrl repository revision) fault) ∨
      ∃ pushes, error = .ambiguous repository revision pushes := by
  unfold decodeAnswer decodePushes at h
  split at h
  · split at h
    · split at h
      · cases h
      · cases h
        exact Or.inl ⟨_, rfl⟩
    · cases h
      exact Or.inr ⟨_, rfl⟩
  · cases h
    exact Or.inl ⟨_, rfl⟩

/-- Lookups that share a server with known responses take consecutive segments of these, in order.

Each takes the shortest prefix of the responses left that ends in a body, or as many as there may be
attempts if no body is among so many; where none is left a request fails. It requests its own
address once for each response. The last response decides what it gives: a failure is given as it
is, and a body is decoded, whatever comes of that. The lookups after some others are as they would
be on a server that only has the responses left and has never been asked before. -/
theorem lookUpAll_takes_segments (settings : Settings) (exchange : Exchange)
    (lookups : List (String × String)) :
    let limit := max settings.retry.attempts.toNat 1
    let ran := lookUpAll settings Exchange.get lookups exchange
    (∃ turns : List Turn,
      turns.map (fun turn => (turn.repository, turn.revision)) = lookups ∧
      turns.map Turn.result = ran.1 ∧
      taken turns = exchange.upcoming (taken turns).length ∧
      ran.2.responses = exchange.responses.drop (taken turns).length ∧
      ran.2.requested = exchange.requested ++ turns.flatMap (fun turn =>
        List.replicate turn.taken.length (lookupUrl turn.repository turn.revision)) ∧
      ∀ before turn later, turns = before ++ turn :: later →
        IsSegment ((exchange.past before).upcoming limit) turn.taken ∧
        ((∃ error, turn.taken.getLast? = some (.error error) ∧ turn.result = .error error) ∨
          ∃ body, turn.taken.getLast? = some (.ok body) ∧
            turn.result = decodeAnswer turn.repository turn.revision body)) ∧
    (∀ repository revision body error, decodeAnswer repository revision body = .error error →
      (∃ fault, error = .invalidAnswer (lookupUrl repository revision) fault) ∨
        ∃ pushes, error = .ambiguous repository revision pushes) ∧
    ∀ earlier later log, lookups = earlier ++ later →
      let before := lookUpAll settings Exchange.get earlier exchange
      let alone := lookUpAll settings Exchange.get later { before.2 with requested := log }
      ran.1 = before.1 ++ alone.1 ∧ ran.2.responses = alone.2.responses ∧
        ∃ requests, ran.2.requested = before.2.requested ++ requests ∧
          alone.2.requested = log ++ requests := by
  intro limit ran
  refine ⟨?_, fun _ _ _ _ h => decodeAnswer_error h, fun earlier later log h => ?_⟩
  · obtain ⟨turns, hlookups, htaken, hturns, hall⟩ := lookUpAll_turns settings exchange lookups
    have hran : ran = (turns.map Turn.result, exchange.past turns) := hall exchange.requested
    rw [hran]
    exact ⟨turns, hlookups, rfl, htaken, rfl, rfl, hturns⟩
  · intro before alone
    obtain ⟨turns, -, -, -, hall⟩ := lookUpAll_turns settings before.2 later
    have hran : ran = (before.1 ++ turns.map Turn.result, before.2.past turns) := by
      simp only [ran, h, lookUpAll_append]
      rw [show lookUpAll settings Exchange.get later
        (lookUpAll settings Exchange.get earlier exchange).2 = _ from hall before.2.requested]
      rfl
    have halone : alone = (turns.map Turn.result, (before.2.recording log).past turns) := hall log
    rw [hran, halone]
    exact ⟨rfl, rfl, turns.flatMap Turn.requested, rfl, rfl⟩

end RevisionControl.Pushlog
