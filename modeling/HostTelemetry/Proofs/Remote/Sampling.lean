import HostTelemetry.Proofs.Poll.Outcome
import HostTelemetry.Proofs.Reading.Extraction
import HostTelemetry.Remote.Ssh

namespace HostTelemetry.Ssh

open Reading (extractObject Fields)

-- A sample that is taken through the client, with a run that takes so many
-- milliseconds.
def Client.sample (c : Client) (plan : Poll.Plan) (start : Nat) (s : Sampler) (h : Host)
    (delay : Nat) (run : Run) : Except SampleFault Snapshot × Sampler :=
  Poll.sample plan start s h.name ⟨delay, c.conclude h plan.timeout run⟩

-- An exit code by which the client, or the helper that hands over a password, says
-- that there was no session.
def Unreached (viaHelper : Bool) (status : Option Int) : Prop :=
  status = some 255 ∨ viaHelper ∧ (status = some 5 ∨ status = some 6)

-- What a run that ended in time comes to, from what it printed, what it complained
-- of and how it ended.
inductive Verdict (viaHelper : Bool) (status : Option Int) (printed complaint : String) :
    Except SampleFault Fields → Prop
  | unreached (hblank : Text.AllBlank printed) (hunreached : Unreached viaHelper status) :
      Verdict viaHelper status printed complaint
        (.error (.connection (SampleFault.excerpt complaint)))
  | complained (hblank : Text.AllBlank printed) (hreached : ¬Unreached viaHelper status)
      (hcomplaint : complaint ≠ "") :
      Verdict viaHelper status printed complaint
        (.error (.command (SampleFault.excerpt complaint)))
  | failed (hblank : Text.AllBlank printed) (hreached : ¬Unreached viaHelper status)
      (hquiet : complaint = "") {code : Int} (hstatus : status = some code) (hcode : code ≠ 0) :
      Verdict viaHelper status printed complaint
        (.error (.command ("exit status " ++ Int.repr code)))
  | silent (hblank : Text.AllBlank printed) (hreached : ¬Unreached viaHelper status)
      (hquiet : complaint = "") (hstatus : status = none ∨ status = some 0) :
      Verdict viaHelper status printed complaint
        (.error (.malformed "empty output" (SampleFault.excerpt printed)))
  | garbled (hprinted : ¬Text.AllBlank printed) {reason : String}
      (hextract : extractObject printed =
        .error (.malformed reason (SampleFault.excerpt printed))) :
      Verdict viaHelper status printed complaint
        (.error (.malformed reason (SampleFault.excerpt printed)))
  | reported (hprinted : ¬Text.AllBlank printed) {fields : Fields}
      (hextract : extractObject printed = .ok fields) :
      Verdict viaHelper status printed complaint (.ok fields)

theorem isConnectFailure_iff {viaHelper : Bool} {status : Option Int} :
    isConnectFailure viaHelper status = true ↔ Unreached viaHelper status := by
  cases status <;> simp [isConnectFailure, Unreached, connectFailure, helperFailures]

theorem extractObject_of_blank {printed : String} (h : Text.AllBlank printed) :
    extractObject printed = .error (.malformed "empty output" (SampleFault.excerpt printed)) := by
  have htrim : Text.trimChars printed.toList = [] := by
    have := Text.trim_eq_empty_iff.mpr h
    rwa [Text.trim, String.ofList_eq_empty_iff] at this
  rw [extractObject, htrim]
  rfl

-- Each run comes to something.
theorem Verdict.exists (viaHelper : Bool) (status : Option Int) (printed complaint : String) :
    ∃ v, Verdict viaHelper status printed complaint v := by
  by_cases hprinted : Text.AllBlank printed
  · by_cases hunreached : Unreached viaHelper status
    · exact ⟨_, .unreached hprinted hunreached⟩
    by_cases hquiet : complaint = ""
    · match hstatus : status with
      | none => exact ⟨_, .silent hprinted hunreached hquiet (.inl rfl)⟩
      | some code =>
          by_cases hcode : code = 0
          · exact ⟨_, .silent hprinted hunreached hquiet (.inr (congrArg some hcode))⟩
          · exact ⟨_, .failed hprinted hunreached hquiet rfl hcode⟩
    · exact ⟨_, .complained hprinted hunreached hquiet⟩
  · cases hextract : extractObject printed with
    | ok fields => exact ⟨_, .reported hprinted hextract⟩
    | error e =>
        obtain ⟨reason, rfl⟩ := Reading.extractObject_eq_error hextract
        exact ⟨_, .garbled hprinted hextract⟩

section Finished

variable {h : Host} {out : Command.Output}

-- The report in what a finished run printed, if it gave any.
def report (h : Host) (out : Command.Output) : Except SampleFault Fields :=
  ((settle h out).bind Command.Output.text).bind extractObject

theorem settle_of_unreached (hblank : Text.AllBlank out.stdout)
    (hunreached : Unreached h.password.isSome out.exitCode) :
    settle h out = .error (.connection (SampleFault.excerpt (Text.trim out.stderr))) := by
  rw [settle, isConnectFailure_iff.mpr hunreached, decide_eq_true hblank, Bool.and_true, if_pos rfl]

theorem settle_of_reached
    (hreached : Text.AllBlank out.stdout → ¬Unreached h.password.isSome out.exitCode) :
    settle h out = .ok out := by
  rw [settle, if_neg]
  rw [Bool.and_eq_true, isConnectFailure_iff, decide_eq_true_eq]
  rintro ⟨hunreached, hblank⟩
  exact hreached hblank hunreached

theorem report_of_reached
    (hreached : Text.AllBlank out.stdout → ¬Unreached h.password.isSome out.exitCode) :
    report h out = out.text.bind extractObject := by
  rw [report, settle_of_reached hreached]
  rfl

theorem Verdict.report_eq {v : Except SampleFault Fields}
    (hv : Verdict h.password.isSome out.exitCode out.stdout (Text.trim out.stderr) v) :
    report h out = v := by
  cases hv with
  | unreached hblank hunreached =>
      rw [report, settle_of_unreached hblank hunreached]
      rfl
  | complained hblank hreached hcomplaint =>
      rw [report_of_reached fun _ => hreached, Command.Output.text, if_pos hblank,
        if_pos hcomplaint]
      rfl
  | failed hblank hreached hquiet hstatus hcode =>
      rw [report_of_reached fun _ => hreached, Command.Output.text, if_pos hblank,
        if_neg (not_not.mpr hquiet), hstatus]
      dsimp only
      rw [if_pos hcode]
      rfl
  | silent hblank hreached hquiet hstatus =>
      have htext : out.text = .ok out.stdout := by
        rw [Command.Output.text, if_pos hblank, if_neg (not_not.mpr hquiet)]
        rcases hstatus with hstatus | hstatus <;> rw [hstatus]
        rfl
      rw [report_of_reached fun _ => hreached, htext]
      exact extractObject_of_blank hblank
  | garbled hprinted hextract | reported hprinted hextract =>
      rw [report_of_reached fun hblank => absurd hblank hprinted, Command.Output.text,
        if_neg hprinted]
      exact hextract

theorem report_eq_iff {v : Except SampleFault Fields} :
    report h out = v ↔
      Verdict h.password.isSome out.exitCode out.stdout (Text.trim out.stderr) v := by
  refine ⟨?_, Verdict.report_eq⟩
  rintro rfl
  obtain ⟨v, hv⟩ := Verdict.exists h.password.isSome out.exitCode out.stdout (Text.trim out.stderr)
  rwa [hv.report_eq]

-- No report is lost over how the run ended.
theorem report_isOk : (report h out).isOk = (extractObject out.stdout).isOk := by
  obtain ⟨v, hv⟩ := Verdict.exists h.password.isSome out.exitCode out.stdout (Text.trim out.stderr)
  rw [hv.report_eq]
  cases hv with
  | unreached hblank _ | complained hblank _ _ | failed hblank _ _ _ _ =>
      rw [extractObject_of_blank hblank]
      rfl
  | silent hblank _ _ _ => rw [extractObject_of_blank hblank]
  | garbled _ hextract | reported _ hextract => rw [hextract]

theorem sample_of_finished (c : Client) {plan : Poll.Plan} (start : Nat) (s : Sampler) (h : Host)
    {delay : Nat} (hdelay : delay ≤ plan.timeout) (stdout stderr : List UInt8)
    (status : Option Int) :
    (c.sample plan start s h delay (.finished stdout stderr status)).1 =
      (report h ⟨Text.Utf8.decodeLossy stdout, Text.Utf8.decodeLossy stderr, status⟩).map
        fun fields => Sampler.snapshotOf (.ofFields fields)
          ((s.memory h.name).derive (.ofFields fields) (Time.seconds (start + delay))).1 := by
  rw [Client.sample, Poll.sample, Command.Reply.text_of_inTime hdelay, Client.conclude, report]
  cases (settle h _).bind Command.Output.text with
  | error e => rfl
  | ok text =>
      dsimp only
      have htext : (Except.ok text).bind extractObject = extractObject text := rfl
      rw [Sampler.normalize_fst, Reading.parse, htext]
      cases extractObject text <;> rfl

end Finished

-- A run that ends in time comes to just one of these verdicts. It gives a snapshot
-- just if there is a report in what it printed, and any other verdict leaves what was
-- remembered of the hosts as it was.
theorem sample_verdict (c : Client) {plan : Poll.Plan} (start : Nat) (s : Sampler) (h : Host)
    {delay : Nat} (hdelay : delay ≤ plan.timeout) (stdout stderr : List UInt8)
    (status : Option Int) :
    let printed := Text.Utf8.decodeLossy stdout
    let complaint := Text.trim (Text.Utf8.decodeLossy stderr)
    let result := c.sample plan start s h delay (.finished stdout stderr status)
    (∀ fault, result.1 = .error fault ↔
      Verdict h.password.isSome status printed complaint (.error fault)) ∧
    (∀ snapshot, result.1 = .ok snapshot ↔
      ∃ fields, Verdict h.password.isSome status printed complaint (.ok fields) ∧
        snapshot = Sampler.snapshotOf (.ofFields fields)
          ((s.memory h.name).derive (.ofFields fields) (Time.seconds (start + delay))).1) ∧
    (result.1.isOk ↔ (extractObject printed).isOk) ∧
    (∀ fault, result.1 = .error fault → result.2 = s) := by
  intro printed complaint result
  let out : Command.Output := ⟨printed, Text.Utf8.decodeLossy stderr, status⟩
  have hverdict : ∀ {v}, report h out = v ↔
      Verdict h.password.isSome status printed complaint v := report_eq_iff
  have hresult : result.1 = (report h out).map fun fields =>
      Sampler.snapshotOf (.ofFields fields)
        ((s.memory h.name).derive (.ofFields fields) (Time.seconds (start + delay))).1 :=
    sample_of_finished c start s h hdelay stdout stderr status
  rw [hresult]
  refine ⟨fun fault => ?_, fun snapshot => ?_, ?_, fun fault hfault => ?_⟩
  · rw [← hverdict]
    cases report h out <;> simp [Except.map]
  · simp only [← hverdict]
    cases report h out <;> simp [Except.map, eq_comm]
  · have hextract : (report h out).isOk = (extractObject printed).isOk := report_isOk
    rw [← hextract]
    cases report h out <;> rfl
  · exact Poll.sample_snd_of_fault plan (hresult.trans hfault)

def hourly : Poll.Plan := ⟨60000, "uptime", []⟩

def lockedBox : Host := ⟨"db", "db.lan", 22, "admin", some "secret", none⟩

-- With exit code 5, which says that the password was refused.
def refusedRun (printed : String) : Run :=
  .finished (Text.Utf8.encode printed) (Text.Utf8.encode "Permission denied\n") (some 5)

theorem sample_verdict_refused :
    40 ≤ hourly.timeout ∧
    (Client.sample ⟨10000, "ssh"⟩ hourly 0 .empty lockedBox 40 (refusedRun "\n")).1 =
      .error (.connection "Permission denied") ∧
    (Client.sample ⟨10000, "ssh"⟩ hourly 0 .empty lockedBox 40 (refusedRun "\n")).2 = .empty ∧
    (Client.sample ⟨10000, "ssh"⟩ hourly 0 .empty lockedBox 40
      (refusedRun "\x7b\"cpu\":1\x7d")).1.isOk := by
  have hdelay : 40 ≤ hourly.timeout := by decide
  obtain ⟨hfault, -, -, hkept⟩ := sample_verdict ⟨10000, "ssh"⟩ 0 .empty lockedBox hdelay
    (Text.Utf8.encode "\n") (Text.Utf8.encode "Permission denied\n") (some 5)
  have hcomplaint : SampleFault.excerpt (Text.trim (Text.Utf8.decodeLossy
      (Text.Utf8.encode "Permission denied\n"))) = "Permission denied" := by decide +kernel
  have hblank : Text.AllBlank (Text.Utf8.decodeLossy (Text.Utf8.encode "\n")) := by decide +kernel
  have hrefused := (hfault (.connection "Permission denied")).mpr
    (hcomplaint ▸ .unreached hblank (.inr ⟨rfl, .inl rfl⟩))
  obtain ⟨-, -, hreport, -⟩ := sample_verdict ⟨10000, "ssh"⟩ 0 .empty lockedBox hdelay
    (Text.Utf8.encode "\x7b\"cpu\":1\x7d") (Text.Utf8.encode "Permission denied\n") (some 5)
  exact ⟨hdelay, hrefused, hkept _ hrefused, hreport.mpr (by decide +kernel)⟩

end HostTelemetry.Ssh
