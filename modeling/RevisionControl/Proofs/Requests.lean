import Mathlib.Data.List.DropRight
import RevisionControl.Proofs.Lookups

/-!
# Proofs: what a request asks for

Nothing is escaped in the address of a lookup, so its fixed parts may occur in the repository and in
the revision again. Which of the occurrences are the fixed parts is still clear where the revision
has no equals sign: the last equals sign then ends the fixed part before the revision. The
repository and the revision are read back from there (`lookupOf?`), and lookups of something else
send other requests.
-/

namespace RevisionControl.Pushlog

/-! ## The last of some separators -/

section Cut

variable {α : Type} [DecidableEq α] {separator : α} {before behind : List α}

theorem takeWhile_reverse_ne (h : separator ∉ behind) :
    ∀ x ∈ behind.reverse, (x != separator) = true := by
  intro x hx
  refine bne_iff_ne.mpr ?_
  rintro rfl
  exact h (List.mem_reverse.mp hx)

/-- What stands behind the last separator. -/
theorem rtakeWhile_ne_append (h : separator ∉ behind) :
    (before ++ separator :: behind).rtakeWhile (· != separator) = behind := by
  unfold List.rtakeWhile
  rw [List.reverse_append, List.reverse_cons, List.append_assoc,
    List.takeWhile_append_of_pos (takeWhile_reverse_ne h), List.singleton_append,
    List.takeWhile_cons_of_neg (by simp), List.append_nil, List.reverse_reverse]

/-- What stands up to the last separator. -/
theorem rdropWhile_ne_append (h : separator ∉ behind) :
    (before ++ separator :: behind).rdropWhile (· != separator) = before ++ [separator] := by
  have hall : (before ++ separator :: behind).rdropWhile (· != separator) ++ behind =
      (before ++ [separator]) ++ behind := by
    have hsplit := List.rdropWhile_append_rtakeWhile (p := (· != separator))
      (l := before ++ separator :: behind)
    rw [rtakeWhile_ne_append h] at hsplit
    rw [hsplit, List.append_assoc, List.singleton_append]
  exact List.append_cancel_right hall

end Cut

/-! ## Reading an address -/

/-- The fixed part between the repository and the revision, without the equals sign at its end. -/
def urlMiddle : List Char := "/json-pushes?version=2&changeset".toList

/-- The fixed part behind the revision. -/
def urlEnd : List Char := "&tipsonly=1&full=1".toList

/-- The repository and the revision that an address asks for. The revision begins behind the last
equals sign in front of the fixed end. -/
def lookupOf? (url : String) : Option (String × String) := do
  let asked ← url.toList.dropSuffix? urlEnd
  let repository ← (asked.rdropWhile (· != '=')).dropSuffix? (urlMiddle ++ ['='])
  return (String.ofList repository, String.ofList (asked.rtakeWhile (· != '=')))

variable {repository revision repository' revision' url : String}

theorem toList_lookupUrl (repository revision : String) :
    (lookupUrl repository revision).toList =
      repository.toList ++ urlMiddle ++ '=' :: revision.toList ++ urlEnd := by
  have hmiddle : "/json-pushes?version=2&changeset=".toList = urlMiddle ++ ['='] := by rfl
  unfold lookupUrl
  rw [String.toList_append, String.toList_append, String.toList_append, hmiddle,
    ← List.append_assoc, List.append_assoc _ ['='], List.singleton_append]
  rfl

theorem dropSuffix?_eq_some {text ending front : List Char} :
    text.dropSuffix? ending = some front ↔ text = front ++ ending := by
  rw [List.dropSuffix?_eq_some_iff]
  constructor
  · rintro ⟨ending', htext, hsame⟩
    rw [htext, eq_of_beq hsame]
  · intro htext
    exact ⟨ending, htext, beq_self_eq_true ending⟩

theorem lookupOf?_lookupUrl (h : '=' ∉ revision.toList) :
    lookupOf? (lookupUrl repository revision) = some (repository, revision) := by
  have hasked : (lookupUrl repository revision).toList.dropSuffix? urlEnd =
      some (repository.toList ++ urlMiddle ++ '=' :: revision.toList) :=
    dropSuffix?_eq_some.mpr (toList_lookupUrl repository revision)
  have hfront : (repository.toList ++ urlMiddle ++ ['=']).dropSuffix? (urlMiddle ++ ['=']) =
      some repository.toList :=
    dropSuffix?_eq_some.mpr (List.append_assoc _ _ _)
  unfold lookupOf?
  rw [hasked, Option.bind_eq_bind, Option.bind_some, rdropWhile_ne_append h,
    rtakeWhile_ne_append h, hfront, Option.bind_some, String.ofList_toList, String.ofList_toList]
  rfl

/-- Only the addresses of lookups are read, and only as what they ask for. -/
theorem of_lookupOf? (h : lookupOf? url = some (repository, revision)) :
    '=' ∉ revision.toList ∧ url = lookupUrl repository revision := by
  unfold lookupOf? at h
  obtain ⟨asked, hasked, h⟩ := Option.bind_eq_some_iff.mp h
  obtain ⟨front, hfront, h⟩ := Option.bind_eq_some_iff.mp h
  obtain ⟨rfl, rfl⟩ := Prod.mk.inj (Option.some.inj h)
  refine ⟨?_, String.toList_inj.mp ?_⟩
  · rw [String.toList_ofList]
    intro hmem
    exact absurd (List.mem_rtakeWhile_imp hmem) (by decide)
  · have hsplit := List.rdropWhile_append_rtakeWhile (p := (· != '=')) (l := asked)
    rw [dropSuffix?_eq_some.mp hfront] at hsplit
    rw [toList_lookupUrl, String.toList_ofList, String.toList_ofList,
      dropSuffix?_eq_some.mp hasked, List.append_left_inj, ← List.singleton_append,
      ← List.append_assoc, List.append_assoc front]
    exact hsplit.symm

theorem lookupOf?_eq_some_iff :
    lookupOf? url = some (repository, revision) ↔
      '=' ∉ revision.toList ∧ url = lookupUrl repository revision := by
  constructor
  · exact of_lookupOf?
  · rintro ⟨hrevision, rfl⟩
    exact lookupOf?_lookupUrl hrevision

theorem lookupUrl_inj (h : '=' ∉ revision.toList) (h' : '=' ∉ revision'.toList)
    (hurl : lookupUrl repository revision = lookupUrl repository' revision') :
    repository = repository' ∧ revision = revision' := by
  have hread : lookupOf? (lookupUrl repository revision) = some (repository, revision) :=
    lookupOf?_lookupUrl h
  rw [hurl, lookupOf?_lookupUrl h'] at hread
  obtain ⟨hrepository, hrevision⟩ := Prod.mk.inj (Option.some.inj hread)
  exact ⟨hrepository.symm, hrevision.symm⟩

/-! ## The requests of lookups -/

section Logged

variable {σ : Type} (fetch : Fetch σ) (s : σ) (log : List String)

/-- The same transport with a log of the addresses that are requested. -/
def logged : Fetch (σ × List String) := fun url => ExceptT.mk fun (s, log) =>
  let (response, s) := (fetch url).run s
  (response, s, log ++ [url])

theorem stateAfter_logged (url : String) (count : Nat) :
    stateAfter (logged fetch url) (s, log) count =
      (stateAfter (fetch url) s count, log ++ List.replicate count url) := by
  induction count with
  | zero => exact congrArg (Prod.mk s) (List.append_nil log).symm
  | succ count ih =>
    rw [stateAfter_succ', stateAfter_succ', ih, List.replicate_succ', ← List.append_assoc]
    rfl

theorem outcomeOf_logged (url : String) (number : Nat) :
    outcomeOf (logged fetch url) (s, log) number = outcomeOf (fetch url) s number := by
  unfold outcomeOf
  rw [stateAfter_logged]
  rfl

/-- A lookup makes a request, and none but for its own address. The log makes no difference to what
it gives. -/
theorem lookUp_logged (settings : Settings) (repository revision : String) :
    ∃ count, 0 < count ∧
      (lookUp settings (logged fetch) repository revision).run (s, log) =
        (((lookUp settings fetch repository revision).run s).1,
          ((lookUp settings fetch repository revision).run s).2,
          log ++ List.replicate count (lookupUrl repository revision)) := by
  obtain ⟨number, hlast, hrun⟩ :=
    settings.retry.run_stops (fetch (lookupUrl repository revision)) s
  have hlogged := hlast.congr fun earlier _ _ =>
    outcomeOf_logged fetch s log (lookupUrl repository revision) earlier
  refine ⟨number, hlast.pos, ?_⟩
  rw [lookUp_run, lookUp_run, Policy.run_of_isLastCall hlogged, hrun, stateAfter_logged,
    outcomeOf_logged]

/-- The addresses that a lookup requests, in order. -/
def requestsOf (settings : Settings) (repository revision : String) : List String :=
  ((lookUp settings (logged fetch) repository revision).run (s, [])).2.2

theorem requestsOf_eq (settings : Settings) (repository revision : String) :
    ∃ count, 0 < count ∧ requestsOf fetch s settings repository revision =
      List.replicate count (lookupUrl repository revision) := by
  obtain ⟨count, hcount, hrun⟩ := lookUp_logged fetch s [] settings repository revision
  refine ⟨count, hcount, ?_⟩
  unfold requestsOf
  rw [hrun]
  rfl

end Logged

/-- The address of a lookup tells what is asked for, whatever the repository has in it, if there is
no equals sign in the revision: two addresses are equal only for the same repository and the same
revision, and both are read back from the address and from nothing else. So every request of a
lookup tells what it asks for, on any transport, and no lookup of something else sends it. -/
theorem lookupUrl_tells_lookup :
    (∀ repository revision repository' revision' : String,
      '=' ∉ revision.toList → '=' ∉ revision'.toList →
      lookupUrl repository revision = lookupUrl repository' revision' →
      repository = repository' ∧ revision = revision') ∧
    (∀ url repository revision : String, lookupOf? url = some (repository, revision) ↔
      '=' ∉ revision.toList ∧ url = lookupUrl repository revision) ∧
    (∀ {σ : Type} (fetch : Fetch σ) (s : σ) (settings : Settings) (repository revision : String),
      '=' ∉ revision.toList →
      let requests := requestsOf fetch s settings repository revision
      requests ≠ [] ∧ ∀ url ∈ requests, lookupOf? url = some (repository, revision)) ∧
    ∀ {σ τ : Type} (fetch : Fetch σ) (fetch' : Fetch τ) (s : σ) (s' : τ)
      (settings settings' : Settings) (repository revision repository' revision' : String),
      '=' ∉ revision.toList → '=' ∉ revision'.toList →
      (repository, revision) ≠ (repository', revision') →
      ∀ url ∈ requestsOf fetch s settings repository revision,
        url ∉ requestsOf fetch' s' settings' repository' revision' := by
  have hrequest : ∀ {σ : Type} (fetch : Fetch σ) (s : σ) (settings : Settings)
      (repository revision url : String), '=' ∉ revision.toList →
      url ∈ requestsOf fetch s settings repository revision →
      lookupOf? url = some (repository, revision) := by
    intro σ fetch s settings repository revision url hrevision hurl
    obtain ⟨count, -, hrequests⟩ := requestsOf_eq fetch s settings repository revision
    rw [hrequests] at hurl
    rw [List.eq_of_mem_replicate hurl]
    exact lookupOf?_lookupUrl hrevision
  refine ⟨fun _ _ _ _ => lookupUrl_inj, fun _ _ _ => lookupOf?_eq_some_iff, ?_, ?_⟩
  · intro σ fetch s settings repository revision hrevision requests
    refine ⟨?_, fun url hurl => hrequest fetch s settings _ _ url hrevision hurl⟩
    obtain ⟨count, hcount, hrequests⟩ := requestsOf_eq fetch s settings repository revision
    intro hnone
    rw [show requests = _ from hrequests, List.replicate_eq_nil_iff] at hnone
    omega
  · intro σ τ fetch fetch' s s' settings settings' repository revision repository' revision'
      hrevision hrevision' hother url hurl hurl'
    have hread := hrequest fetch s settings repository revision url hrevision hurl
    rw [hrequest fetch' s' settings' repository' revision' url hrevision' hurl'] at hread
    exact hother (Option.some.inj hread).symm

/-- The fixed parts stand in the repository and in the revision again. -/
theorem lookupUrl_tells_repeated_parts :
    let repository := "r/json-pushes?version=2&changeset=v&tipsonly=1&full=1"
    let revision := "/json-pushes?version"
    '=' ∉ revision.toList ∧
      lookupOf? (lookupUrl repository revision) = some (repository, revision) ∧
      lookupUrl repository revision ≠ lookupUrl "r" "v" := by
  intro repository revision
  have hrevision : '=' ∉ revision.toList := by decide
  have hplain : '=' ∉ "v".toList := by decide
  obtain ⟨hinj, hread, -⟩ := lookupUrl_tells_lookup
  refine ⟨hrevision, (hread _ _ _).mpr ⟨hrevision, rfl⟩, fun hurl => ?_⟩
  have hsame := (hinj repository revision "r" "v" hrevision hplain hurl).2
  exact absurd hsame (by decide)

end RevisionControl.Pushlog
