import HostTelemetry.Proofs.Registry
import Mathlib.Data.List.Induction

namespace HostTelemetry.Registry

section Firsts

-- What has been observed, each where it was first seen.
structure Firsts (observed listed : List String) : Prop where
  mem_iff : ∀ id, id ∈ listed ↔ id ∈ observed
  ordered : listed.Pairwise fun id later => observed.idxOf id < observed.idxOf later

theorem Firsts.ordered_append {observed listed : List String} (h : Firsts observed listed)
    (more : List String) :
    listed.Pairwise fun id later =>
      (observed ++ more).idxOf id < (observed ++ more).idxOf later := by
  refine h.ordered.imp_of_mem fun {id later} hid hlater hlt => ?_
  rwa [List.idxOf_append_of_mem ((h.mem_iff id).mp hid),
    List.idxOf_append_of_mem ((h.mem_iff later).mp hlater)]

theorem Firsts.again {observed listed : List String} (h : Firsts observed listed) {id : String}
    (hid : id ∈ listed) : Firsts (observed ++ [id]) listed where
  mem_iff other := by
    rw [List.mem_append, List.mem_singleton, h.mem_iff]
    constructor
    · exact .inl
    · rintro (hother | rfl)
      · exact hother
      · exact (h.mem_iff _).mp hid
  ordered := h.ordered_append [id]

theorem Firsts.concat {observed listed : List String} (h : Firsts observed listed) {id : String}
    (hid : id ∉ listed) : Firsts (observed ++ [id]) (listed ++ [id]) where
  mem_iff other := by
    rw [List.mem_append, List.mem_append, h.mem_iff]
  ordered := by
    have hnew : id ∉ observed := fun hmem => hid ((h.mem_iff id).mpr hmem)
    refine List.pairwise_append.mpr ⟨h.ordered_append [id], List.pairwise_singleton _ _, ?_⟩
    intro earlier hearlier last hlast
    obtain rfl := List.mem_singleton.mp hlast
    have hmem : earlier ∈ observed := (h.mem_iff earlier).mp hearlier
    have hlt : observed.idxOf earlier < observed.length := List.idxOf_lt_length_of_mem hmem
    rw [List.idxOf_append_of_mem hmem, List.idxOf_append_of_notMem hnew]
    omega

end Firsts

-- The observed identifiers that were not known before.
def unknown (r : Registry) (host : String) (category : Category) (observed : List String) :
    List String :=
  observed.filter fun id => !r.isKnown host category id

@[simp] theorem unknown_nil (host : String) (category : Category) (observed : List String) :
    unknown [] host category observed = observed := by
  simp [unknown, isKnown]

theorem unknown_concat (r : Registry) (host : String) (category : Category)
    (observed : List String) (id : String) :
    r.unknown host category (observed ++ [id]) =
      r.unknown host category observed ++ if r.isKnown host category id then [] else [id] := by
  rw [unknown, List.filter_append, ← unknown]
  by_cases h : r.isKnown host category id <;> simp [h]

theorem peek_concat (r : Registry) (host : String) (category : Category)
    (observed : List String) (id : String) :
    r.peek host category (observed ++ [id]) =
      if r.isKnown host category id ∨ id ∈ r.peek host category observed then
        r.peek host category observed
      else r.peek host category observed ++ [id] := by
  have hstep : r.peek host category (observed ++ [id]) =
      r.peekFrom host category (r.peek host category observed) [id] :=
    List.foldl_append
  rw [hstep, peekFrom_cons]
  rfl

theorem firsts_peek (r : Registry) (host : String) (category : Category)
    (observed : List String) :
    Firsts (r.unknown host category observed) (r.peek host category observed) := by
  induction observed using List.reverseRecOn with
  | nil => exact ⟨fun _ => Iff.rfl, .nil⟩
  | append_singleton observed id ih =>
      -- what comes last is known, or listed by now, or goes to the end of the list
      rw [peek_concat, unknown_concat]
      by_cases hknown : r.isKnown host category id
      · simpa [hknown] using ih
      · by_cases hseen : id ∈ r.peek host category observed
        · simpa [hknown, hseen] using ih.again hseen
        · simpa [hknown, hseen] using ih.concat hseen

-- What a registry is asked: to take note of what is observed, or only what of it
-- would be new.
inductive Call where
  | announce (host : String) (category : Category) (observed : List String)
  | peek (host : String) (category : Category) (observed : List String)

namespace Call

def host : Call → String
  | announce host _ _ => host
  | peek host _ _ => host

def category : Call → Category
  | announce _ category _ => category
  | peek _ category _ => category

def observed : Call → List String
  | announce _ _ observed => observed
  | peek _ _ observed => observed

def records : Call → Bool
  | announce _ _ _ => true
  | peek _ _ _ => false

def concerns (host : String) (category : Category) (call : Call) : Bool :=
  call.host = host && call.category = category

def announces (host : String) (category : Category) (call : Call) : Bool :=
  call.records && call.concerns host category

def run (r : Registry) : Call → List String × Registry
  | announce host category observed => r.announce host category observed
  | peek host category observed => (r.peek host category observed, r)

end Call

-- Calls in their order, each with its answer.
def history (r : Registry) : List Call → List (Call × List String)
  | [] => []
  | call :: rest => (call, (call.run r).1) :: history (call.run r).2 rest

def after (r : Registry) (calls : List Call) : Registry :=
  calls.foldl (fun r call => (call.run r).2) r

-- All that was handed over about a host's category, and all that came back.
def observedBy (host : String) (category : Category) (calls : List Call) : List String :=
  (calls.filter (·.announces host category)).flatMap (·.observed)

def reported (host : String) (category : Category) (answered : List (Call × List String)) :
    List String :=
  (answered.filter (·.1.announces host category)).flatMap Prod.snd

section Runs

variable {r r' : Registry} {host id : String} {category : Category}

theorem observedBy_cons (call : Call) (rest : List Call) :
    observedBy host category (call :: rest) =
      (if call.announces host category then call.observed else []) ++
        observedBy host category rest := by
  by_cases h : call.announces host category <;> simp [observedBy, h]

theorem reported_cons (entry : Call × List String) (rest : List (Call × List String)) :
    reported host category (entry :: rest) =
      (if entry.1.announces host category then entry.2 else []) ++
        reported host category rest := by
  by_cases h : entry.1.announces host category <;> simp [reported, h]

theorem concerns_iff {call : Call} :
    call.concerns host category ↔ call.host = host ∧ call.category = category := by
  simp [Call.concerns]

-- Both kinds of call are answered alike.
theorem run_fst (r : Registry) (call : Call) :
    (call.run r).1 = r.peek call.host call.category call.observed := by
  cases call <;> rfl

theorem run_snd_of_not_records {call : Call} (h : call.records = false) :
    (call.run r).2 = r := by
  cases call with
  | announce host category observed => cases h
  | peek host category observed => rfl

theorem isKnown_run {call : Call} :
    (call.run r).2.isKnown host category id ↔
      r.isKnown host category id ∨ call.announces host category ∧ id ∈ call.observed := by
  cases call with
  | announce other category' observed =>
      simp only [Call.run, isKnown_announce, Call.announces, Call.records, Bool.true_and,
        concerns_iff, Call.host, Call.category, Call.observed, and_assoc]
  | peek other category' observed => simp [Call.run, Call.announces, Call.records]

theorem isKnown_after {calls : List Call} :
    (r.after calls).isKnown host category id ↔
      r.isKnown host category id ∨ id ∈ observedBy host category calls := by
  induction calls generalizing r with
  | nil => simp [after, observedBy]
  | cons call rest ih =>
      change ((call.run r).2.after rest).isKnown host category id ↔ _
      rw [ih, isKnown_run, observedBy_cons]
      by_cases hcall : call.announces host category <;> simp [hcall, or_assoc]

theorem announces_eq_false {call : Call} (h : ¬call.concerns host category) :
    call.announces host category = false := by
  rw [Call.announces, Bool.eq_false_iff.mpr h, Bool.and_false]

-- Two registries that know the same of a host's category answer alike about it.
theorem run_congr (hsame : ∀ id, r.isKnown host category id = r'.isKnown host category id)
    {call : Call} (hcall : call.concerns host category) :
    (call.run r).1 = (call.run r').1 := by
  obtain ⟨rfl, rfl⟩ := concerns_iff.mp hcall
  rw [run_fst, run_fst]
  exact peek_congr hsame call.observed

-- Without the calls about anything else, those about a host's category are answered as
-- they were.
theorem history_concerning (calls : List Call)
    (hsame : ∀ id, r.isKnown host category id = r'.isKnown host category id) :
    (r.history calls).filter (·.1.concerns host category) =
      r'.history (calls.filter (·.concerns host category)) := by
  induction calls generalizing r r' with
  | nil => rfl
  | cons call rest ih =>
      by_cases hcall : call.concerns host category
      · have hnext : ∀ id, (call.run r).2.isKnown host category id =
            (call.run r').2.isKnown host category id := fun id => by
          rw [Bool.eq_iff_iff, isKnown_run, isKnown_run, hsame]
        rw [history, List.filter_cons_of_pos (by exact hcall), List.filter_cons_of_pos hcall,
          history, ih hnext, run_congr hsame hcall]
      · have hnext : ∀ id, (call.run r).2.isKnown host category id =
            r'.isKnown host category id := fun id => by
          rw [Bool.eq_iff_iff, isKnown_run, announces_eq_false hcall, hsame]
          simp
        rw [history, List.filter_cons_of_neg (by exact hcall), List.filter_cons_of_neg hcall,
          ih hnext]

theorem isKnown_after_concerning (calls : List Call) :
    (r.after calls).isKnown host category id =
      (r.after (calls.filter (·.concerns host category))).isKnown host category id := by
  have hobserved : observedBy host category (calls.filter (·.concerns host category)) =
      observedBy host category calls := by
    rw [observedBy, List.filter_filter, observedBy]
    congr 2
    funext call
    rw [Call.announces, Bool.and_assoc, Bool.and_self]
  rw [Bool.eq_iff_iff, isKnown_after, isKnown_after, hobserved]

-- Nor do the calls that only look matter to those that take note.
theorem after_recording (r : Registry) (calls : List Call) :
    r.after (calls.filter (·.records)) = r.after calls := by
  rw [after, List.foldl_filter, after]
  congr 1
  funext r call
  by_cases hcall : call.records
  · rw [if_pos hcall]
  · rw [if_neg hcall, run_snd_of_not_records (Bool.eq_false_iff.mpr hcall)]

theorem history_recording (r : Registry) (calls : List Call) :
    (r.history calls).filter (·.1.records) = r.history (calls.filter (·.records)) := by
  induction calls generalizing r with
  | nil => rfl
  | cons call rest ih =>
      rw [history]
      by_cases hcall : call.records
      · rw [List.filter_cons_of_pos (by exact hcall), List.filter_cons_of_pos hcall, history, ih]
      · rw [List.filter_cons_of_neg (by exact hcall), List.filter_cons_of_neg hcall,
          run_snd_of_not_records (Bool.eq_false_iff.mpr hcall), ih]

-- The answers of a run, put together, are the answer to everything at once.
theorem reported_eq_peek (r : Registry) (host : String) (category : Category)
    (calls : List Call) :
    reported host category (r.history calls) =
      r.peek host category (observedBy host category calls) := by
  induction calls generalizing r with
  | nil => rfl
  | cons call rest ih =>
      rw [history, reported_cons, observedBy_cons, ih]
      -- a call that hands over nothing about the category leaves what is known of it alone
      by_cases hcall : call.announces host category
      · rw [if_pos hcall, if_pos hcall, peek_append]
        obtain ⟨hrecords, hconcerns⟩ := Bool.and_eq_true_iff.mp hcall
        obtain ⟨rfl, rfl⟩ := concerns_iff.mp hconcerns
        cases call with
        | announce host category observed => rfl
        | peek host category observed => cases hrecords
      · rw [if_neg hcall, if_neg hcall, List.nil_append, List.nil_append]
        refine peek_congr (fun id => ?_) _
        rw [Bool.eq_iff_iff, isKnown_run]
        simp [hcall]

theorem firsts_reported (r : Registry) (host : String) (category : Category)
    (calls : List Call) :
    Firsts (r.unknown host category (observedBy host category calls))
      (reported host category (r.history calls)) := by
  rw [reported_eq_peek]
  exact firsts_peek r host category _

theorem isKnown_after_append (later : List Call) {calls : List Call}
    (h : (r.after calls).isKnown host category id) :
    (r.after (calls ++ later)).isKnown host category id := by
  have happend : r.after (calls ++ later) = (r.after calls).after later := List.foldl_append
  rw [happend, isKnown_after]
  exact .inl h

end Runs

-- A registry gives every identifier once, where it first turns up, however what is
-- observed is cut into calls. Calls about anything else do not matter to it, and those
-- that only look change nothing.
theorem reports_once (r : Registry) (host : String) (category : Category) (calls : List Call) :
    (∀ first second,
      let one := r.announce host category first
      let two := one.2.announce host category second
      r.announce host category (first ++ second) = (one.1 ++ two.1, two.2)) ∧
    (reported host category (r.history calls)).Nodup ∧
    Firsts (r.unknown host category (observedBy host category calls))
      (reported host category (r.history calls)) ∧
    Firsts (observedBy host category calls) (reported host category (history [] calls)) ∧
    (∀ id, (r.after calls).isKnown host category id ↔
      r.isKnown host category id ∨ id ∈ observedBy host category calls) ∧
    (∀ id, (after [] calls).isKnown host category id ↔ id ∈ observedBy host category calls) ∧
    (∀ later id, (r.after calls).isKnown host category id →
      (r.after (calls ++ later)).isKnown host category id) ∧
    (∀ observed, ((Call.peek host category observed).run (r.after calls)).1 =
      ((Call.announce host category observed).run (r.after calls)).1) ∧
    r.after (calls.filter (·.records)) = r.after calls ∧
    (r.history calls).filter (·.1.records) = r.history (calls.filter (·.records)) ∧
    (r.history calls).filter (·.1.concerns host category) =
      r.history (calls.filter (·.concerns host category)) ∧
    ∀ id, (r.after calls).isKnown host category id =
      (r.after (calls.filter (·.concerns host category))).isKnown host category id := by
  refine ⟨announce_append r host category, ?_, firsts_reported r host category calls, ?_,
    fun _ => isKnown_after, fun id => ?_, fun later _ h => isKnown_after_append later h,
    fun _ => by rw [run_fst, run_fst]; rfl, after_recording r calls, history_recording r calls,
    history_concerning calls fun _ => rfl, fun _ => isKnown_after_concerning calls⟩
  · rw [reported_eq_peek]
    exact nodup_peek r host category _
  · have hnew := firsts_reported [] host category calls
    rwa [unknown_nil] at hnew
  · rw [isKnown_after]
    simp [isKnown]

-- One identifier comes twice in a call, one has only been looked at, and one is known
-- of another host.
def mixedCalls : List Call :=
  [.announce "web" .disk ["root", "data", "root"], .peek "web" .disk ["boot"],
   .announce "db" .disk ["boot"], .announce "web" .disk ["data", "boot"]]

theorem reports_once_mixedCalls :
    (after [] mixedCalls).isKnown "web" .disk "boot" ∧
    (after [] (mixedCalls ++ [.peek "web" .disk [], .announce "db" .disk ["tmp"]])).isKnown
      "web" .disk "boot" ∧
    reported "web" .disk (history [] mixedCalls) = ["root", "data", "boot"] := by
  obtain ⟨-, -, -, -, -, hknown, hkept, -⟩ := reports_once [] "web" .disk mixedCalls
  have hboot : (after [] mixedCalls).isKnown "web" .disk "boot" :=
    (hknown "boot").mpr (by decide)
  exact ⟨hboot, hkept _ "boot" hboot, by decide⟩

end HostTelemetry.Registry
