import RevisionControl.Proofs.Remotes

/-!
# Proofs: the base revision

Each tool is asked one question for the base revision, and a second one, for the head revision, only
if the answer to the first tells of none (`TellsBase`). Git answers with a listing: the revisions of
the current work, and behind a minus sign those where it left what is on a remote. However the lines
of the listing are ended and padded, the names in them are its entries (`Printed.namesIn_eq`); read
from the end, the plain ones are passed over.
-/

namespace RevisionControl

open Host Text

/-! ## The calls of a launch -/

namespace Launcher

variable {launcher : Launcher} {host after : Host} {arguments : List String} {output : String}

/-- A launch makes one call, with its arguments, or none where the host refuses. -/
theorem run_calls_cases (launcher : Launcher) (arguments : List String) (host : Host) :
    (∃ call, call.arguments = arguments ∧
      ((launcher.run arguments).run host).2.calls = host.calls ++ [call]) ∨
    ∃ fault, (launcher.run arguments).run host = (.error (.io fault), host) := by
  rcases launcher.run_cases arguments host with ⟨fault, -, hrun⟩ | ⟨call, hprepare, hrun⟩
  · exact Or.inr ⟨fault, hrun⟩
  · have hcourse : (launcher.attempt host arguments).course = .ok (call, (host.run call).1) := by
      rw [attempt, hprepare]
      rfl
    refine Or.inl ⟨call, (attempt_call hcourse).2, ?_⟩
    rw [hrun, run_calls]

theorem exists_call_of_ok (h : (launcher.run arguments).run host = (.ok output, after)) :
    ∃ call, call.arguments = arguments ∧ after.calls = host.calls ++ [call] := by
  rcases launcher.run_calls_cases arguments host with ⟨call, harguments, hcalls⟩ | ⟨fault, hrun⟩
  · rw [h] at hcalls
    exact ⟨call, harguments, hcalls⟩
  · rw [h] at hrun
    cases hrun

theorem run_runTrimmed (launcher : Launcher) (arguments : List String) (host : Host) :
    (launcher.runTrimmed arguments).run host =
      (((launcher.run arguments).run host).1.map trim, ((launcher.run arguments).run host).2) := by
  rw [runTrimmed, HostM.run_bind]
  rcases (launcher.run arguments).run host with ⟨reason | output, after⟩ <;> rfl

end Launcher

/-! ## Listings of revisions -/

namespace Git

/-- An entry of a listing of revisions. -/
inductive ListedRevision where
  /-- A revision of the current work. -/
  | plain (revision : String)
  /-- A revision where the current work starts from what is on a remote. -/
  | boundary (revision : String)
deriving DecidableEq, Repr

namespace ListedRevision

/-- How an entry is written. -/
def text : ListedRevision → String
  | plain revision => revision
  | boundary revision => "-" ++ revision

/-- A revision is not empty and no blank is at its ends; one without a mark does not look marked. -/
def Proper : ListedRevision → Prop
  | plain revision =>
    revision ≠ "" ∧ Trimmed revision.toList ∧ revision.toList.head? ≠ some '-'
  | boundary revision => revision ≠ "" ∧ Trimmed revision.toList

instance : DecidablePred Proper
  | plain _ => inferInstanceAs (Decidable (_ ∧ _))
  | boundary _ => inferInstanceAs (Decidable (_ ∧ _))

variable {entry : ListedRevision} {revision : String}

theorem Proper.text_ne_nil (h : entry.Proper) : entry.text.toList ≠ [] := by
  cases entry with
  | plain revision =>
    obtain ⟨hne, -, -⟩ := h
    exact fun hnil => hne (String.toList_eq_nil_iff.mp hnil)
  | boundary revision => simp [text]

theorem Proper.trimmed_text (h : entry.Proper) : Trimmed entry.text.toList := by
  cases entry with
  | plain revision => exact h.2.1
  | boundary revision =>
    obtain ⟨hne, htrimmed⟩ := h
    have hrevision : revision.toList ≠ [] := fun hnil => hne (String.toList_eq_nil_iff.mp hnil)
    have hminus : Trimmed ['-'] := by decide
    have henclose : Trimmed (['-'] ++ [] ++ revision.toList) :=
      hminus.enclose (by simp) htrimmed hrevision
    simpa [text] using henclose

/-- A plain entry is passed over by a search for marks. -/
theorem Proper.behindMinus_plain (h : (plain revision).Proper) :
    behindMinus (plain revision).text.toList = none := by
  obtain ⟨-, -, hhead⟩ := h
  unfold behindMinus
  split
  · rename_i rest hrest
    rw [text] at hrest
    rw [hrest] at hhead
    exact absurd rfl hhead
  · rfl

theorem behindMinus_boundary (revision : String) :
    behindMinus (boundary revision).text.toList = some revision.toList := by
  rw [text, String.toList_append]
  rfl

end ListedRevision

/-- Entries are printed one per line, in order; a line may be padded with blanks, and there may be
blank lines anywhere. -/
inductive Printed : List ListedRevision → List (List Char) → Prop where
  /-- Nothing is printed. -/
  | none : Printed [] []
  /-- A blank line is printed first. -/
  | blank {entries : List ListedRevision} {line : List Char} {lines : List (List Char)}
      (hline : AllBlank line) (h : Printed entries lines) : Printed entries (line :: lines)
  /-- An entry is printed first. -/
  | entry {entry : ListedRevision} {entries : List ListedRevision} {left right : List Char}
      {lines : List (List Char)} (hentry : entry.Proper) (hleft : AllBlank left)
      (hright : AllBlank right) (h : Printed entries lines) :
      Printed (entry :: entries) ((left ++ entry.text.toList ++ right) :: lines)

variable {entries before : List ListedRevision} {lines : List (List Char)} {listing revision : String}
  {plain : List String}

theorem Printed.proper (h : Printed entries lines) : ∀ entry ∈ entries, entry.Proper := by
  induction h with
  | none => exact fun _ hmem => absurd hmem List.not_mem_nil
  | blank _ _ ih => exact ih
  | entry hentry _ _ _ ih => exact List.forall_mem_cons.mpr ⟨hentry, ih⟩

/-- The names in the lines are the entries. -/
theorem Printed.namesIn_eq (h : Printed entries lines) :
    namesIn lines = entries.map fun entry => entry.text.toList := by
  induction h with
  | none => rfl
  | blank hline _ ih => rw [namesIn_cons, namesIn_of_allBlank hline, ih, List.nil_append]
  | @entry entry entries left right lines hentry hleft hright _ ih =>
    have hname : namesIn [entry.text.toList] = [entry.text.toList] := by
      have hne : entry.text.toList.isEmpty = false := List.isEmpty_eq_false_iff.mpr hentry.text_ne_nil
      simp [namesIn, hentry.trimmed_text.trimChars_eq, hne]
    rw [namesIn_cons, namesIn_pad hleft hright, hname, ih]
    rfl

/-- A blank line holds no mark, so it makes no difference to a search for marks. -/
theorem findSome?_behindMinus_filter (names : List (List Char)) :
    (names.filter (!·.isEmpty)).findSome? behindMinus = names.findSome? behindMinus := by
  induction names with
  | nil => rfl
  | cons name names ih =>
    cases name with
    | nil => exact ih
    | cons c name =>
      have hkept : ((c :: name) :: names).filter (!·.isEmpty) =
          (c :: name) :: names.filter (!·.isEmpty) := rfl
      rw [hkept, List.findSome?_cons, List.findSome?_cons, ih]

theorem lastBoundary?_eq_match (listing : String) :
    lastBoundary? listing =
      match (listedChars listing.toList).reverse.findSome? behindMinus with
      | none | some [] => none
      | some revision => some (String.ofList revision) := by
  have hnames : (listedChars listing.toList).reverse.findSome? behindMinus =
      ((Text.lines listing.toList).map trimChars).reverse.findSome? behindMinus := by
    unfold listedChars
    rw [← List.filter_reverse, findSome?_behindMinus_filter]
  rw [hnames]
  rfl

theorem findSome?_plain (h : ∀ revision ∈ plain, (ListedRevision.plain revision).Proper)
    (earlier : List (List Char)) :
    (earlier ++ plain.map fun revision => (ListedRevision.plain revision).text.toList).reverse.findSome?
        behindMinus = earlier.reverse.findSome? behindMinus := by
  have hpassed : (plain.map fun revision =>
      (ListedRevision.plain revision).text.toList).reverse.findSome? behindMinus = none := by
    rw [List.findSome?_eq_none_iff]
    intro name hname
    obtain ⟨revision, hmem, rfl⟩ := List.mem_map.mp (List.mem_reverse.mp hname)
    exact (h revision hmem).behindMinus_plain
  rw [List.reverse_append, List.findSome?_append, hpassed, Option.none_or]

/-- The last entry with a mark is found, however many without one follow it. -/
theorem lastBoundary?_of_boundary (hlaid : Laid lines listing.toList)
    (h : Printed (before ++ .boundary revision :: plain.map .plain) lines) :
    lastBoundary? listing = some revision := by
  have hproper := h.proper
  have hboundary : (ListedRevision.boundary revision).Proper := hproper _ (by simp)
  have hplain : ∀ revision ∈ plain, (ListedRevision.plain revision).Proper := by
    intro revision hmem
    refine hproper _ (List.mem_append_right _ (List.mem_cons_of_mem _ ?_))
    exact List.mem_map_of_mem hmem
  have hnames : listedChars listing.toList =
      (before.map (fun entry => entry.text.toList) ++
        [(ListedRevision.boundary revision).text.toList]) ++
      plain.map fun revision => (ListedRevision.plain revision).text.toList := by
    rw [listedChars_of_laid hlaid, h.namesIn_eq]
    simp [Function.comp_def]
  have hne : revision.toList ≠ [] := fun hnil => hboundary.1 (String.toList_eq_nil_iff.mp hnil)
  rw [lastBoundary?_eq_match, hnames, findSome?_plain hplain, List.reverse_append,
    List.reverse_singleton, List.singleton_append, List.findSome?_cons,
    ListedRevision.behindMinus_boundary]
  dsimp only
  split
  · rename_i hnone
    cases hnone
  · rename_i hnil
    exact absurd (Option.some.inj hnil) hne
  · rename_i found hfound
    rw [← Option.some.inj hfound, String.ofList_toList]

theorem lastBoundary?_of_plain (hlaid : Laid lines listing.toList)
    (h : Printed (plain.map .plain) lines) : lastBoundary? listing = none := by
  have hplain : ∀ revision ∈ plain, (ListedRevision.plain revision).Proper := fun revision hmem =>
    h.proper _ (List.mem_map_of_mem hmem)
  have hnames : listedChars listing.toList =
      [] ++ plain.map fun revision => (ListedRevision.plain revision).text.toList := by
    rw [listedChars_of_laid hlaid, h.namesIn_eq]
    simp [Function.comp_def]
  rw [lastBoundary?_eq_match, hnames, findSome?_plain hplain]
  rfl

end Git

/-! ## The two questions -/

namespace Tool

/-- The arguments of the question for the base revision. -/
def baseQuery : Tool → List String
  | .git => ["rev-list", "HEAD", "--topo-order", "--boundary", "--not", "--remotes"]
  | .hg => ["log", "-r", "last(ancestors(.) and public())", "-T", Mercurial.nodeTemplate]

/-- The arguments of the question for the head revision. -/
def headQuery : Tool → List String
  | .git => ["rev-parse", "--verify", "HEAD"]
  | .hg => ["log", "-r", ".", "-T", Mercurial.nodeTemplate]

end Tool

/-- What the answer to the first question tells: the base revision, or that there is none. -/
inductive TellsBase : Tool → String → Option String → Prop where
  /-- Git lists boundaries; the last of them is the base, whatever plain entries follow it. -/
  | boundary {before : List Git.ListedRevision} {revision listing : String} {plain : List String}
      {lines : List (List Char)} (hlaid : Laid lines listing.toList)
      (h : Git.Printed (before ++ .boundary revision :: plain.map .plain) lines) :
      TellsBase .git listing (some revision)
  /-- Git lists no boundary. -/
  | noBoundary {listing : String} {plain : List String} {lines : List (List Char)}
      (hlaid : Laid lines listing.toList) (h : Git.Printed (plain.map .plain) lines) :
      TellsBase .git listing none
  /-- Mercurial prints the base, perhaps with padding. -/
  | base {revision output : String} {left right : List Char} (hleft : AllBlank left)
      (hright : AllBlank right) (hrevision : Trimmed revision.toList) (hne : revision ≠ "")
      (h : output.toList = left ++ revision.toList ++ right) : TellsBase .hg output (some revision)
  /-- Mercurial prints nothing but blanks. -/
  | nothing {output : String} (h : AllBlank output.toList) : TellsBase .hg output none

namespace WorkingCopy

variable {copy : WorkingCopy} {host after : Host} {output revision : String} {error : Error}

theorem headRevision_run (copy : WorkingCopy) (host : Host) :
    copy.headRevision.run host =
      (((copy.launcher.run copy.tool.headQuery).run host).1.map trim,
        ((copy.launcher.run copy.tool.headQuery).run host).2) := by
  obtain ⟨tool, launcher⟩ := copy
  cases tool with
  | git => exact launcher.run_runTrimmed _ host
  | hg => exact launcher.run_runTrimmed _ host

/-- A failure of the first question is the failure of the search. -/
theorem baseRevision_of_failed
    (h : (copy.launcher.run copy.tool.baseQuery).run host = (.error error, after)) :
    copy.baseRevision.run host = (.error error, after) := by
  obtain ⟨tool, launcher⟩ := copy
  cases tool with
  | git => exact HostM.run_bind_error h _
  | hg =>
    have hfailed : (launcher.run Tool.hg.baseQuery).run host = (.error error, after) := h
    have htrimmed : (launcher.runTrimmed Tool.hg.baseQuery).run host = (.error error, after) := by
      rw [Launcher.run_runTrimmed, hfailed]
      rfl
    exact HostM.run_bind_error htrimmed _

theorem git_baseRevision_of_listing {git : Launcher}
    (h : (git.run Tool.git.baseQuery).run host = (.ok output, after)) :
    (WorkingCopy.baseRevision ⟨.git, git⟩).run host =
      match Git.lastBoundary? output with
      | some revision => (.ok revision, after)
      | none => (WorkingCopy.headRevision ⟨.git, git⟩).run after := by
  have hrun : (WorkingCopy.baseRevision ⟨.git, git⟩).run host = _ := HostM.run_bind_ok h _
  rw [hrun]
  cases Git.lastBoundary? output <;> rfl

theorem hg_baseRevision_of_output {hg : Launcher}
    (h : (hg.run Tool.hg.baseQuery).run host = (.ok output, after)) :
    (WorkingCopy.baseRevision ⟨.hg, hg⟩).run host =
      if (trim output).isEmpty then (WorkingCopy.headRevision ⟨.hg, hg⟩).run after
      else (.ok (trim output), after) := by
  have htrimmed : (hg.runTrimmed Tool.hg.baseQuery).run host = (.ok (trim output), after) := by
    rw [Launcher.run_runTrimmed, h]
    rfl
  have hrun : (WorkingCopy.baseRevision ⟨.hg, hg⟩).run host = _ := HostM.run_bind_ok htrimmed _
  rw [hrun]
  split <;> rfl

/-- A base revision that is told is the answer. -/
theorem baseRevision_of_told
    (h : (copy.launcher.run copy.tool.baseQuery).run host = (.ok output, after))
    (htells : TellsBase copy.tool output (some revision)) :
    copy.baseRevision.run host = (.ok revision, after) := by
  obtain ⟨tool, launcher⟩ := copy
  cases htells with
  | boundary hlaid hprinted =>
    rw [git_baseRevision_of_listing h, Git.lastBoundary?_of_boundary hlaid hprinted]
  | base hleft hright hrevision hne houtput =>
    have htrim : trim output = revision := by
      rw [trim, houtput, trimChars_pad hleft hright, hrevision.trimChars_eq, String.ofList_toList]
    have hnonempty : ¬ revision.isEmpty = true := by
      rw [String.isEmpty_iff]
      exact hne
    rw [hg_baseRevision_of_output h, htrim, if_neg hnonempty]

/-- If none is told, the second question is asked where the first left the host. -/
theorem baseRevision_of_none
    (h : (copy.launcher.run copy.tool.baseQuery).run host = (.ok output, after))
    (htells : TellsBase copy.tool output none) :
    copy.baseRevision.run host = copy.headRevision.run after := by
  obtain ⟨tool, launcher⟩ := copy
  cases htells with
  | noBoundary hlaid hprinted =>
    rw [git_baseRevision_of_listing h, Git.lastBoundary?_of_plain hlaid hprinted]
  | nothing hblank =>
    have htrim : trim output = "" := by
      rw [trim, trimChars_of_allBlank hblank]
    rw [hg_baseRevision_of_output h, htrim]
    rfl

/-- Whatever Mercurial prints tells of a base revision or of none. -/
theorem exists_tellsBase_hg (output : String) : ∃ base, TellsBase .hg output base := by
  by_cases hblank : AllBlank output.toList
  · exact ⟨none, .nothing hblank⟩
  · obtain ⟨left, right, hleft, hright, houtput⟩ := exists_pad output.toList
    refine ⟨some (trim output), .base hleft hright ?_ ?_ ?_⟩
    · rw [trim, String.toList_ofList]
      exact trimmed_trimChars output.toList
    · intro hempty
      have hnil : trimChars output.toList = [] := String.ofList_eq_empty_iff.mp hempty
      rw [hnil, List.append_nil] at houtput
      refine hblank fun c hc => ?_
      rw [houtput] at hc
      exact (List.mem_append.mp hc).elim (hleft c) (hright c)
    · rw [trim, String.toList_ofList]
      exact houtput

/-- The base revision of a working copy is what the answer to the first question tells, which is
then the only call. In a Git listing that is the last boundary, without its mark, however many plain
entries follow it; Mercurial prints it, and what it prints is trimmed.

If there is none, the outcome is that of the search for the head revision, success or failure, on
the host that the first question left. That is a second call, unless the host refuses to start a
process for it; then its refusal is the outcome. A failure of the first question is the outcome, and
the second one is not asked. -/
theorem baseRevision_told_or_head (copy : WorkingCopy) (host : Host) :
    let first := (copy.launcher.run copy.tool.baseQuery).run host
    let ran := copy.baseRevision.run host
    (∀ output revision, first.1 = .ok output → TellsBase copy.tool output (some revision) →
      ran = (.ok revision, first.2) ∧
        ∃ call, call.arguments = copy.tool.baseQuery ∧ ran.2.calls = host.calls ++ [call]) ∧
    (∀ output, first.1 = .ok output → TellsBase copy.tool output none →
      ran = copy.headRevision.run first.2 ∧
        ∃ call, call.arguments = copy.tool.baseQuery ∧ first.2.calls = host.calls ++ [call] ∧
          ((∃ second, second.arguments = copy.tool.headQuery ∧
              ran.2.calls = host.calls ++ [call, second]) ∨
            ∃ fault, ran = (.error (.io fault), first.2))) ∧
    (∀ error, first.1 = .error error →
      ran = (.error error, first.2) ∧
        ∃ calls, ran.2.calls = host.calls ++ calls ∧ calls.length ≤ 1 ∧
          ∀ call ∈ calls, call.arguments = copy.tool.baseQuery) ∧
    (∀ output, copy.tool = .hg → ∃ base, TellsBase copy.tool output base) := by
  intro first ran
  refine ⟨fun output revision hok htells => ?_, fun output hok htells => ?_,
    fun error hfailed => ?_, fun output htool => ?_⟩
  · have hfirst : first = (.ok output, first.2) := Prod.ext hok rfl
    have hran : ran = (.ok revision, first.2) := baseRevision_of_told hfirst htells
    obtain ⟨call, harguments, hcalls⟩ := Launcher.exists_call_of_ok hfirst
    exact ⟨hran, call, harguments, by rw [hran, hcalls]⟩
  · have hfirst : first = (.ok output, first.2) := Prod.ext hok rfl
    have hran : ran = copy.headRevision.run first.2 := baseRevision_of_none hfirst htells
    obtain ⟨call, harguments, hcalls⟩ := Launcher.exists_call_of_ok hfirst
    refine ⟨hran, call, harguments, hcalls, ?_⟩
    rw [hran, headRevision_run]
    rcases copy.launcher.run_calls_cases copy.tool.headQuery first.2 with
      ⟨second, hsecond, hmore⟩ | ⟨fault, hrefused⟩
    · refine Or.inl ⟨second, hsecond, ?_⟩
      rw [hmore, hcalls, List.append_assoc]
      rfl
    · refine Or.inr ⟨fault, ?_⟩
      rw [hrefused]
      rfl
  · have hfirst : first = (.error error, first.2) := Prod.ext hfailed rfl
    have hran : ran = (.error error, first.2) := baseRevision_of_failed hfirst
    refine ⟨hran, ?_⟩
    rw [hran]
    rcases copy.launcher.run_calls_cases copy.tool.baseQuery host with
      ⟨call, harguments, hcalls⟩ | ⟨fault, hrefused⟩
    · exact ⟨[call], hcalls, Nat.le_refl 1, fun other hother =>
        (List.mem_singleton.mp hother) ▸ harguments⟩
    · have hhost : first.2 = host := congrArg Prod.snd hrefused
      exact ⟨[], by rw [hhost, List.append_nil], Nat.zero_le 1, fun _ hmem =>
        absurd hmem List.not_mem_nil⟩
  · rw [htool]
    exact exists_tellsBase_hg output

/-- Git lists two boundaries, with a blank line and padding between them, and a plain revision. -/
theorem baseRevision_told_by_second_boundary :
    TellsBase .git "-c3\r\n\n -d4 \nb2" (some "d4") ∧
      ((WorkingCopy.baseRevision ⟨.git, ⟨"/", "/tool", ∅⟩⟩).run
        (Host.answering [printing "-c3\r\n\n -d4 \nb2"])).1 = .ok "d4" := by
  have hlines : Text.lines "-c3\r\n\n -d4 \nb2".toList =
      [[] ++ "-c3".toList ++ [], [], [' '] ++ "-d4".toList ++ [' '], [] ++ "b2".toList ++ []] := by
    decide
  have hlaid := laid_lines "-c3\r\n\n -d4 \nb2".toList
  have hplain : Git.Printed (["b2"].map .plain) [[] ++ "b2".toList ++ []] :=
    .entry (by decide) (by decide) (by decide) .none
  have hboundary : Git.Printed (.boundary "d4" :: ["b2"].map .plain)
      [[' '] ++ "-d4".toList ++ [' '], [] ++ "b2".toList ++ []] :=
    .entry (by decide) (by decide) (by decide) hplain
  have hprinted : Git.Printed ([.boundary "c3"] ++ .boundary "d4" :: ["b2"].map .plain)
      (Text.lines "-c3\r\n\n -d4 \nb2".toList) := by
    rw [hlines]
    exact .entry (by decide) (by decide) (by decide) (.blank (by decide) hboundary)
  have htells : TellsBase .git "-c3\r\n\n -d4 \nb2" (some "d4") := .boundary hlaid hprinted
  have hfirst : (((Launcher.run ⟨"/", "/tool", ∅⟩ Tool.git.baseQuery).run
      (Host.answering [printing "-c3\r\n\n -d4 \nb2"])).1) = .ok "-c3\r\n\n -d4 \nb2" := by rfl
  obtain ⟨hran, -⟩ := (baseRevision_told_or_head ⟨.git, ⟨"/", "/tool", ∅⟩⟩
    (Host.answering [printing "-c3\r\n\n -d4 \nb2"])).1 _ _ hfirst htells
  exact ⟨htells, congrArg Prod.fst hran⟩

end WorkingCopy

end RevisionControl
