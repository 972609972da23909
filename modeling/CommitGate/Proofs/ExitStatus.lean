import CommitGate.Program
import CommitGate.Proofs.Reviewed
import CommitGate.Proofs.Settings

/-!
# The exit status of a run

A run loads its settings first, and ends in the failure code if that fails, whatever it was to do. A
single message that cannot be read as text ends it alike. Otherwise the status counts what is wrong
with the message, or is that of the walk, with the range that the command line and the settings
give. Reports of text that need too wide a field aside, every run comes to such an end, and it ends
in zero only if all that it examined conforms.
-/

namespace CommitGate.Program

open Policy

variable {s s' : Surroundings} {o : Options} {found : Settings} {path raw : Text}

/-! ## What a run works on -/

/-- The settings of the file that the command line asks for, or why they cannot be had. -/
def loaded (s : Surroundings) (o : Options) : Except Fault Settings :=
  Settings.load s.files (Settings.Place.wanted o.noConfig o.config)

/-- The bytes of a message, which are those of standard input if the path stands for it. -/
def messageBytes? (s : Surroundings) (path : Text) : Option (List UInt8) :=
  if isInput path then some s.input else (s.files.bytes path).toOption

/-- The text whose form the bytes of a message are; bytes that are malformed are the form of none. -/
def HasMessage (s : Surroundings) (path raw : Text) : Prop :=
  messageBytes? s path = some raw.bytes

/-- The history that a run walks over: the base is that of the command line, or else of the settings
that were loaded. -/
def sourceFor (o : Options) (found : Settings) (repository : Repository) : Source :=
  repository.source (o.base.getD found.baseRef)

/-- The range of a walk: the limit is that of the command line, or else of the settings that were
loaded. -/
def rangeFor (o : Options) (found : Settings) : WalkOptions where
  full := o.full
  limit := o.limit.getD found.limit

/-- The messages that a run examines. -/
inductive Examined (s : Surroundings) (o : Options) (found : Settings) : Text → Prop where
  | message (path raw : Text) (hfile : o.messageFile = some path)
      (hraw : HasMessage s path raw) : Examined s o found (cleanup raw)
  | commit (repository : Repository) (n : Nat) (c : Commit) (hfile : o.messageFile = none)
      (hrepository : s.repository = some repository)
      (hreviewed : Walk.Reviewed (sourceFor o found repository) (rangeFor o found) n)
      (hc : (sourceFor o found repository).commit n = some c) : Examined s o found c.message

/-! ### What is examined -/

theorem HasMessage.unique {raw' : Text} (h : HasMessage s path raw) (h' : HasMessage s path raw') :
    raw = raw' := by
  have hbytes : raw.bytes = raw'.bytes := Option.some.inj (h.symm.trans h')
  have htext := Utf8.decode?_eq_some_iff.mpr hbytes
  rw [Utf8.decode?_eq_some_iff.mpr rfl] at htext
  exact (Option.some.inj htext).symm

theorem examined_iff_of_message {m : Text} (hfile : o.messageFile = some path)
    (hraw : HasMessage s path raw) : Examined s o found m ↔ m = cleanup raw := by
  constructor
  · intro h
    cases h with
    | message path' raw' hfile' hraw' =>
      obtain rfl : path = path' := Option.some.inj (hfile.symm.trans hfile')
      rw [hraw.unique hraw']
    | commit _ _ _ hfile' => rw [hfile] at hfile'; cases hfile'
  · rintro rfl
    exact .message path raw hfile hraw

theorem not_examined {m : Text} (hfile : o.messageFile = none) (hrepository : s.repository = none) :
    ¬ Examined s o found m := by
  intro h
  cases h with
  | message _ _ hfile' => rw [hfile] at hfile'; cases hfile'
  | commit _ _ _ _ hrepository' => rw [hrepository] at hrepository'; cases hrepository'

theorem examined_iff_of_repository {repository : Repository} {m : Text}
    (hfile : o.messageFile = none) (hrepository : s.repository = some repository) :
    Examined s o found m ↔ ∃ n c, Walk.Reviewed (sourceFor o found repository) (rangeFor o found) n ∧
      (sourceFor o found repository).commit n = some c ∧ m = c.message := by
  constructor
  · intro h
    cases h with
    | message _ _ hfile' => rw [hfile] at hfile'; cases hfile'
    | commit repository' n c _ hrepository' hreviewed hc =>
      obtain rfl : repository = repository' := Option.some.inj (hrepository.symm.trans hrepository')
      exact ⟨n, c, hreviewed, hc, rfl⟩
  · rintro ⟨n, c, hreviewed, hc, rfl⟩
    exact .commit repository n c hfile hrepository hreviewed hc

/-! ### Reading a message -/

theorem messageAt_eq_ok_iff : messageAt s path = .ok raw ↔ HasMessage s path raw := by
  unfold messageAt HasMessage messageBytes?
  by_cases hinput : isInput path = true
  · have htext : Utf8.decode? s.input = some raw ↔ s.input = raw.bytes :=
      Utf8.decode?_eq_some_iff.trans eq_comm
    rw [if_pos hinput, if_pos hinput, Option.some.injEq, ← htext]
    cases Utf8.decode? s.input <;> simp
  · have htext : s.files.text path = .ok raw ↔ s.files.bytes path = .ok raw.bytes :=
      Files.text_eq_ok_iff
    have hbytes : (s.files.bytes path).toOption = some raw.bytes ↔
        s.files.bytes path = .ok raw.bytes := by
      cases s.files.bytes path <;> simp [Except.toOption]
    rw [if_neg hinput, if_neg hinput, hbytes, ← htext]
    cases s.files.text path <;> simp [Except.mapError]

theorem exists_messageAt_eq_error (h : ∀ raw, ¬ HasMessage s path raw) :
    ∃ f, messageAt s path = .error f := by
  cases hmessage : messageAt s path with
  | ok raw => exact absurd (messageAt_eq_ok_iff.mp hmessage) (h raw)
  | error f => exact ⟨f, rfl⟩

/-! ## The result of a run in each case -/

section Result

theorem carryOut_of_unloaded {f : Fault} (h : loaded s o = .error f) :
    carryOut s o = .error f := by
  unfold loaded at h
  unfold carryOut settingsFor
  rw [h]
  rfl

theorem result_run_of_carryOut_error {f : Fault} (h : carryOut s o = .error f) :
    (run s o).result = .ok failureCode := by
  unfold run
  rw [h]
  rfl

theorem settingsFor_of_loaded (h : loaded s o = .ok found) :
    settingsFor s o = .ok ⟨o.base.getD found.baseRef, o.limit.getD found.limit⟩ := by
  unfold loaded at h
  unfold settingsFor
  rw [h]
  rfl

theorem result_run_of_unread (h : loaded s o = .ok found) (hfile : o.messageFile = some path)
    (hraw : ∀ raw, ¬ HasMessage s path raw) : (run s o).result = .ok failureCode := by
  obtain ⟨f, hmessage⟩ := exists_messageAt_eq_error hraw
  have hcarry : carryOut s o = .error f := by
    unfold carryOut
    rw [settingsFor_of_loaded h, hfile]
    show (messageAt s path >>= _) = _
    rw [hmessage]
    rfl
  exact result_run_of_carryOut_error hcarry

theorem result_run_of_message (h : loaded s o = .ok found) (hfile : o.messageFile = some path)
    (hraw : HasMessage s path raw) :
    (run s o).result = (reviewMessage (reporterFor s o) (cleanup raw)).result.map exitCodeFor := by
  have hcarry : carryOut s o = .ok ((reviewMessage (reporterFor s o) (cleanup raw)).andThen
      fun count => .done (exitCodeFor count)) := by
    unfold carryOut
    rw [settingsFor_of_loaded h, hfile]
    show (messageAt s path >>= _) = _
    rw [messageAt_eq_ok_iff.mpr hraw]
    rfl
  unfold run
  rw [hcarry, ← Transcript.result_map]

theorem result_run_of_no_repository (h : loaded s o = .ok found) (hfile : o.messageFile = none)
    (hrepository : s.repository = none) : (run s o).result = .ok 0 := by
  unfold run carryOut
  rw [settingsFor_of_loaded h, hfile, hrepository]
  rfl

theorem result_run_of_repository {repository : Repository} (h : loaded s o = .ok found)
    (hfile : o.messageFile = none) (hrepository : s.repository = some repository) :
    (run s o).result = (walk (sourceFor o found repository) (rangeFor o found)
      (reporterFor s o)).result.map Outcome.exitCode := by
  unfold run carryOut
  rw [settingsFor_of_loaded h, hfile, hrepository, ← Transcript.result_map]
  rfl

end Result

/-! ## The status -/

/-- What the status of a run is, in each of the cases in which the run can be. -/
structure ExitStatus (s : Surroundings) (o : Options) (status : Nat) : Prop where
  unloaded : ∀ f, loaded s o = .error f → status = 2
  unread : ∀ found path, loaded s o = .ok found → o.messageFile = some path →
    (∀ raw, ¬ HasMessage s path raw) → status = 2
  reviewed : ∀ found path raw, loaded s o = .ok found → o.messageFile = some path →
    HasMessage s path raw → status = min 255 (review (cleanup raw)).length
  nothing : ∀ found, loaded s o = .ok found → o.messageFile = none → s.repository = none →
    status = 0
  walked : ∀ found repository, loaded s o = .ok found → o.messageFile = none →
    s.repository = some repository →
    ∃ outcome, ((walk (sourceFor o found repository) (rangeFor o found)
        (reporterFor s o)).deliver {}).result = .ok outcome ∧ status = outcome.exitCode

theorem exitStatus_of_result {status : Nat} (h : (run s o).result = .ok status) :
    ExitStatus s o status where
  unloaded f hloaded := by
    rw [result_run_of_carryOut_error (carryOut_of_unloaded hloaded)] at h
    exact (Except.ok.inj h).symm
  unread found path hloaded hfile hraw := by
    rw [result_run_of_unread hloaded hfile hraw] at h
    exact (Except.ok.inj h).symm
  reviewed found path raw hloaded hfile hraw := by
    rw [result_run_of_message hloaded hfile hraw, result_reviewMessage] at h
    split_ifs at h with hrefused
    · cases h
    · rw [min_comm]
      exact (Except.ok.inj h).symm
  nothing found hloaded hfile hrepository := by
    rw [result_run_of_no_repository hloaded hfile hrepository] at h
    exact (Except.ok.inj h).symm
  walked found repository hloaded hfile hrepository := by
    rw [result_run_of_repository hloaded hfile hrepository] at h
    cases hwalk : (walk (sourceFor o found repository) (rangeFor o found)
        (reporterFor s o)).result with
    | error e => rw [hwalk] at h; cases h
    | ok outcome =>
      rw [hwalk] at h
      exact ⟨outcome, Transcript.result_deliver_eq_ok_iff.mpr hwalk, (Except.ok.inj h).symm⟩

/-- A walk ends in zero just if all commits that it reviews conform. -/
theorem exitCode_eq_zero_iff {source : Source} {range : WalkOptions} {r : Reporter}
    {outcome : Outcome} (h : (walk source range r).result = .ok outcome) :
    outcome.exitCode = 0 ↔ ∀ n c, Walk.Reviewed source range n → source.commit n = some c →
      review c.message = [] := by
  obtain ⟨k, hk⟩ := Walk.exists_least_end source (range.boundary source) range.limit
  obtain ⟨rfl, -⟩ := (Walk.result_walk hk r outcome).mp h
  constructor
  · intro hzero n c hreviewed hc
    rcases Walk.lt_or_offender_of_reviewed hk hreviewed with hlt | ⟨rfl, offender, hoffender⟩
    · obtain ⟨c', hc', -, hconforms⟩ := Walk.passes_of_isLeast hk hlt
      rw [hc] at hc'
      cases hc'
      exact hconforms
    · obtain ⟨checked, hclean⟩ := (Walk.exitCode_verdict ..).mp hzero
      rw [Walk.verdict, hoffender] at hclean
      cases hclean
  · intro hall
    rw [Walk.exitCode_verdict, Walk.verdict]
    cases hoffender : Walk.offender? source (range.boundary source) range.limit k with
    | none => exact ⟨k, rfl⟩
    | some c =>
      obtain ⟨-, hc, -, hbad⟩ := Walk.offender?_eq_some_iff.mp hoffender
      exact absurd (hall k c (Walk.reviewed_of_offender hk hoffender) hc) hbad

/-- A run ends in zero just if it does what it was to do and all that it examines conforms. -/
theorem ExitStatus.eq_zero_iff {status : Nat} (h : ExitStatus s o status) :
    status = 0 ↔ ∃ found, loaded s o = .ok found ∧
      (∀ path, o.messageFile = some path → ∃ raw, HasMessage s path raw) ∧
      ∀ m, Examined s o found m → review m = [] := by
  cases hloaded : loaded s o with
  | error f => simp [h.unloaded f hloaded]
  | ok found =>
    simp only [Except.ok.injEq, exists_eq_left']
    cases hfile : o.messageFile with
    | some path =>
      simp only [Option.some.injEq, forall_eq']
      by_cases hread : ∃ raw, HasMessage s path raw
      · obtain ⟨raw, hraw⟩ := hread
        have hzero : status = 0 ↔ review (cleanup raw) = [] := by
          rw [h.reviewed found path raw hloaded hfile hraw, ← List.length_eq_zero_iff]
          omega
        have hsome : ∃ raw, HasMessage s path raw := ⟨raw, hraw⟩
        simp only [hzero, examined_iff_of_message hfile hraw, forall_eq, hsome, true_and]
      · simp [h.unread found path hloaded hfile (not_exists.mp hread), hread]
    | none =>
      simp only [reduceCtorEq, false_implies, implies_true, true_and]
      cases hrepository : s.repository with
      | none =>
        simp [h.nothing found hloaded hfile hrepository, not_examined hfile hrepository]
      | some repository =>
        obtain ⟨outcome, hwalk, rfl⟩ := h.walked found repository hloaded hfile hrepository
        rw [exitCode_eq_zero_iff (Transcript.result_deliver_eq_ok_iff.mp hwalk)]
        simp only [examined_iff_of_repository hfile hrepository]
        constructor
        · rintro hall m ⟨n, c, hreviewed, hc, rfl⟩
          exact hall n c hreviewed hc
        · intro hall n c hreviewed hc
          exact hall c.message ⟨n, c, hreviewed, hc, rfl⟩

/-- In the mode for a single message, runs that read the same message come to the same result, if
both can load their settings. -/
theorem result_run_congr {found' : Settings} (hfile : o.messageFile = some path)
    (h : loaded s o = .ok found) (h' : loaded s' o = .ok found')
    (hsame : messageBytes? s' path = messageBytes? s path) :
    (run s' o).result = (run s o).result := by
  have hmessage : ∀ raw, HasMessage s' path raw ↔ HasMessage s path raw := fun raw => by
    rw [HasMessage, HasMessage, hsame]
  by_cases hread : ∃ raw, HasMessage s path raw
  · obtain ⟨raw, hraw⟩ := hread
    -- whether a report is refused does not depend on colours
    rw [result_run_of_message h hfile hraw, result_run_of_message h' hfile ((hmessage raw).mpr hraw),
      result_reviewMessage, result_reviewMessage]
    rfl
  · have hunread := not_exists.mp hread
    rw [result_run_of_unread h hfile hunread,
      result_run_of_unread h' hfile fun raw hraw => hunread raw ((hmessage raw).mp hraw)]

/-- A run with an accepted command line, whose report is not refused, ends in a status. Settings that
cannot be loaded make it 2 in any mode, and so does a message that is not text. Otherwise the status
is the number of diagnostics of the cleaned message, up to 255, whatever the repository and the
settings; or it is that of the walk, or zero without a repository. It is zero just if nothing failed
and all that was examined conforms. -/
theorem exit_status {arguments : List Text} (hparse : Options.parse arguments = .ok o)
    (hdrawn : ((command s arguments).deliver {}).result ≠ .error (.refused .fieldTooWide)) :
    ∃ status, ((command s arguments).deliver {}).result = .ok status ∧
      ExitStatus s o status ∧
      (∀ found, loaded s o = .ok found →
        Settings.Found s.files (Settings.Place.wanted o.noConfig o.config) found) ∧
      (status = 0 ↔ ∃ found, loaded s o = .ok found ∧
        (∀ path, o.messageFile = some path → ∃ raw, HasMessage s path raw) ∧
        ∀ m, Examined s o found m → review m = []) ∧
      ∀ s' path found found', o.messageFile = some path → loaded s o = .ok found →
        loaded s' o = .ok found' → messageBytes? s' path = messageBytes? s path →
        ((command s' arguments).deliver {}).result = .ok status := by
  have hrun : ∀ s, command s arguments = run s o := by
    intro s
    rw [command, hparse]
  simp only [hrun] at hdrawn ⊢
  obtain ⟨status, hstatus⟩ : ∃ status, (run s o).result = .ok status := by
    cases hresult : (run s o).result with
    | ok status => exact ⟨status, rfl⟩
    | error e =>
      rw [Transcript.deliver_unlimited, hresult] at hdrawn
      cases e
      exact absurd rfl hdrawn
  have hexit := exitStatus_of_result hstatus
  refine ⟨status, Transcript.result_deliver_eq_ok_iff.mpr hstatus, hexit,
    fun found hloaded => Settings.found_of_load hloaded, hexit.eq_zero_iff, ?_⟩
  intro s' path found found' hfile hloaded hloaded' hsame
  rw [Transcript.result_deliver_eq_ok_iff, result_run_congr hfile hloaded hloaded' hsame]
  exact hstatus

/-- What surrounds a run that reads a message from standard input, with no files and no repository.
-/
def piped (message : Text) : Surroundings where
  files := .ofList none []
  input := message.bytes
  repository := none
  terminal := false

/-- A message with a single violation gives the status 1. -/
theorem exit_status_of_wip :
    ((command (piped "wip".toList) ["--message-file".toList, "-".toList]).deliver {}).result =
      .ok 1 := by
  have hparse : Options.parse ["--message-file".toList, "-".toList] =
      .ok { messageFile := some "-".toList } := by
    decide +kernel
  have hdrawn : ((command (piped "wip".toList) ["--message-file".toList, "-".toList]).deliver
      {}).result ≠ .error (.refused .fieldTooWide) := by
    decide +kernel
  have hraw : HasMessage (piped "wip".toList) "-".toList "wip".toList := rfl
  obtain ⟨status, hresult, hexit, -⟩ := exit_status hparse hdrawn
  have hcount := hexit.reviewed {} _ _ rfl rfl hraw
  rw [hresult, hcount]
  decide +kernel

end CommitGate.Program
