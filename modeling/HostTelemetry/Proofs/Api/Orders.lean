import HostTelemetry.Api.Respond
import HostTelemetry.Proofs.Settings.Names
import HostTelemetry.Proofs.Text.Ends
import HostTelemetry.Proofs.Text.Utf8
import Mathlib.Data.List.Forall2

namespace HostTelemetry

namespace Action

theorem name_of_ofName? {s : String} {a : Action} (h : ofName? s = some a) : a.name = s := by
  unfold ofName? at h
  simpa using List.find?_some h

theorem isSome_ofName? (s : String) :
    (ofName? s).isSome = ["update_packages", "reboot", "run"].any fun name => s = name := by
  rw [ofName?, List.isSome_find?]
  simp only [all, List.any_cons, List.any_nil, name, eq_comm]

-- A run takes what was asked for, without the blanks around it.
theorem command?_run (asked : Option String) :
    run.command? asked = (asked.filter fun command => !Text.AllBlank command).map Text.trim := by
  cases asked with
  | none => rfl
  | some command =>
      by_cases hblank : Text.AllBlank command
      · have htrim := Text.trim_eq_empty_iff.mpr hblank
        simp [command?, Option.filter_some, hblank, htrim]
      · have htrim := mt Text.trim_eq_empty_iff.mp hblank
        simp [command?, Option.filter_some, hblank, htrim]

theorem isSome_command? (a : Action) (asked : Option String) :
    (a.command? asked).isSome =
      (!decide (a = run) || (asked.filter fun command => !Text.AllBlank command).isSome) := by
  cases a with
  | run => rw [command?_run, Option.isSome_map]; rfl
  | updatePackages | reboot => rfl

end Action

namespace Api

-- A body that is text is read as it stands.
theorem Body.text_of_string (s : String) : Body.text s = s.toList := by
  rw [Body.text, Text.Utf8.encode, Text.Utf8.scan_encode, List.flatMap_map]
  exact List.flatMap_singleton' _

-- A request for an action, and the parts of its address that spell the names of the host
-- and of the action.
structure Request.Targets (request : Request) (host action : String) : Prop where
  method : request.method = "POST"
  parts : (segments (path request.address.toList)).map String.ofList =
    ["", "api", "hosts", host, "actions", action]
  host : host ≠ ""
  action : action ≠ ""

-- The command that a body asks for, if that is more than blanks.
def Request.asked? (request : Request) : Option String :=
  match Body.command? request.contentType request.body with
  | .ok asked => asked.filter fun command => !Text.AllBlank command
  | .error _ => none

-- Why a body is not taken: it is of no JSON type, too long, not well-formed or not of the
-- right shape. A body that comes without a type is not looked at.
def bodyRefusal? (request : Request) : Option Nat :=
  match request.contentType with
  | none => none
  | some contentType =>
      if !Body.isJson contentType then some 415
      else if 2097152 < request.body.bytes.length then some 413
      else
        match Json.readAll Body.reader request.body.text with
        | .ok _ => none
        | .error fault => if fault.problem = .shape then some 422 else some 400

def refuseUnless (holds : Bool) (code : Nat) : Option Nat :=
  if holds then none else some code

-- What may stand against an order, in the sequence in which it is looked at.
def refusals (settings : Settings) (request : Request) (host action : String) :
    List (Option Nat) :=
  let isRun := spelled? action = some "run"
  [refuseUnless ((spelled? host).isSome && (spelled? action).isSome) 400,
    bodyRefusal? request,
    refuseUnless settings.actions.enabled 403,
    refuseUnless (["update_packages", "reboot", "run"].any fun name =>
      spelled? action = some name) 404,
    refuseUnless (!isRun || settings.actions.allowRunCommand) 403,
    refuseUnless (settings.hosts.any fun h => spelled? host = some h.name) 404,
    refuseUnless (!isRun || request.asked?.isSome) 400]

def firstRefusal? (settings : Settings) (request : Request) (host action : String) : Option Nat :=
  (refusals settings request host action).findSome? id

-- An order that the settings allow and that is what the request asks for.
structure Order.Permitted (settings : Settings) (request : Request) (o : Order) : Prop where
  enabled : settings.actions.enabled = true
  target : ∃ host action, request.Targets host action ∧
    spelled? host = some o.host.name ∧ spelled? action = some o.action.name
  host : o.host ∈ settings.hosts
  only : ∀ h ∈ settings.hosts, h.name = o.host.name → h = o.host
  timeout : o.timeout = settings.actions.timeout * 1000
  update : o.action = .updatePackages → o.command = Action.updateCommand
  reboot : o.action = .reboot → o.command = Action.rebootCommand
  run : o.action = .run → settings.actions.allowRunCommand = true ∧
    ∃ asked, request.asked? = some asked ∧ o.command = Text.trim asked

-- What the settings leave of a request.
structure Exchange.Governed (settings : Settings) (request : Request) (x : Exchange) : Prop where
  once : x.orders.length ≤ 1
  ordered : x.orders ≠ [] ↔
    (∃ host action, request.Targets host action) ∧ x.response.status.code ∈ [200, 502]
  permitted : ∀ o ∈ x.orders, o.Permitted settings request
  refused : ∀ host action, request.Targets host action →
    firstRefusal? settings request host action =
      if x.orders = [] then some x.response.status.code else none

theorem bodyRefusal?_eq (request : Request) :
    bodyRefusal? request =
      match Body.command? request.contentType request.body with
      | .ok _ => none
      | .error fault => some fault.status.code := by
  unfold bodyRefusal? Body.command?
  cases request.contentType with
  | none => rfl
  | some contentType =>
      dsimp only
      split
      · rfl
      · change (if Body.limit < request.body.bytes.length then _ else _) = _
        split
        · rfl
        · cases Json.readAll Body.reader request.body.text with
          | ok _ => rfl
          | error fault =>
              simp only [Except.mapError, Body.faultOf]
              split <;> rfl

theorem bodyRefusal?_of_long {request : Request} {contentType : String}
    (htype : request.contentType = some contentType) (hjson : Body.isJson contentType = true)
    (hlong : 2097152 < request.body.bytes.length) : bodyRefusal? request = some 413 := by
  simp only [bodyRefusal?, htype, hjson, hlong, Bool.not_true, Bool.false_eq_true, if_true,
    if_false]

@[simp] theorem findSome?_none (rest : List (Option Nat)) :
    (none :: rest).findSome? id = rest.findSome? id := rfl

@[simp] theorem findSome?_refuseUnless (holds : Bool) (code : Nat) (rest : List (Option Nat)) :
    (refuseUnless holds code :: rest).findSome? id =
      if holds then rest.findSome? id else some code := by
  cases holds <;> rfl

section Order

variable {settings : Settings} {name verb : String} {asked : Option String}

theorem of_order_eq_ok {o : Order} (h : order settings name verb asked = .ok o) :
    settings.actions.enabled = true ∧ o.action.name = verb ∧
      (o.action = .run → settings.actions.allowRunCommand = true) ∧
      settings.hosts.find? (·.name = name) = some o.host ∧
      o.action.command? asked = some o.command ∧
      o.timeout = settings.actions.timeout * msPerSecond := by
  unfold order at h
  split at h
  · cases h
  · next henabled =>
      split at h
      · cases h
      · next a ha =>
          split at h
          · cases h
          · next hrun =>
              split at h
              · cases h
              · next found hfound =>
                  split at h
                  · cases h
                  · next command hcommand =>
                      cases h
                      exact ⟨by simpa using henabled, Action.name_of_ofName? ha,
                        by simpa using hrun, hfound, hcommand, rfl⟩

end Order

section Refusal

variable {settings : Settings} {request : Request} {host action : String}

theorem firstRefusal?_of_not_spelled (h : spelled? host = none ∨ spelled? action = none) :
    firstRefusal? settings request host action = some 400 := by
  rcases h with h | h <;> simp [firstRefusal?, refusals, h]

variable {name verb : String} (hname : spelled? host = some name)
  (hverb : spelled? action = some verb)

include hname hverb

theorem firstRefusal?_of_body {fault : BodyFault}
    (h : Body.command? request.contentType request.body = .error fault) :
    firstRefusal? settings request host action = some fault.status.code := by
  have hbody : bodyRefusal? request = some fault.status.code := by rw [bodyRefusal?_eq, h]
  simp [firstRefusal?, refusals, hname, hverb, hbody]

theorem firstRefusal?_of_order {asked : Option String}
    (h : Body.command? request.contentType request.body = .ok asked) :
    firstRefusal? settings request host action =
      match order settings name verb asked with
      | .error refusal => some refusal.status.code
      | .ok _ => none := by
  have hbody : bodyRefusal? request = none := by rw [bodyRefusal?_eq, h]
  have hasked : request.asked? = asked.filter fun command => !Text.AllBlank command := by
    rw [Request.asked?, h]
  have hactions := Action.isSome_ofName? verb
  have hhosts : (settings.hosts.find? (·.name = name)).isSome =
      settings.hosts.any fun h => name = h.name := by
    rw [List.isSome_find?]
    simp only [eq_comm]
  simp only [firstRefusal?, refusals, hname, hverb, hbody, hasked, findSome?_refuseUnless,
    findSome?_none, Option.some.injEq, ← hactions, ← hhosts, Option.isSome_some, Bool.and_self,
    if_true, List.findSome?_nil]
  unfold order
  cases settings.actions.enabled with
  | false => rfl
  | true =>
      cases ha : Action.ofName? verb with
      | none => rfl
      | some a =>
          obtain rfl := Action.name_of_ofName? ha
          have hrun : a.name = "run" ↔ a = .run := by cases a <;> decide
          simp only [hrun, ← Action.isSome_command?]
          by_cases hallowed : a = .run ∧ (!settings.actions.allowRunCommand) = true
          · have hrefused : (!decide (a = .run) || settings.actions.allowRunCommand) = false := by
              simpa using hallowed
            simp only [hrefused, if_pos hallowed]
            rfl
          · have hrun' : (!decide (a = .run) || settings.actions.allowRunCommand) = true := by
              simpa [imp_iff_not_or] using hallowed
            simp only [hallowed, hrun', if_true, if_false]
            cases settings.hosts.find? (·.name = name) with
            | none => rfl
            | some found => cases a.command? asked <;> rfl

end Refusal

theorem Refusal.status_response (r : Refusal) : r.response.status.code ∉ [200, 502] := by
  change r.status.code ∉ [200, 502]
  cases r <;> simp [Refusal.status, Status.code]

theorem Order.status_response (o : Order) (reply : Command.Reply) :
    (o.response reply).status.code ∈ [200, 502] := by
  unfold Order.response
  split
  · exact .head _
  · exact .tail _ (.head _)

theorem Order.permitted_of_order {settings : Settings} (hvalid : settings.validate = .ok ())
    {request : Request} {host action name verb : String} {asked : Option String} {o : Order}
    (htarget : request.Targets host action) (hname : spelled? host = some name)
    (hverb : spelled? action = some verb)
    (hbody : Body.command? request.contentType request.body = .ok asked)
    (h : order settings name verb asked = .ok o) : o.Permitted settings request := by
  obtain ⟨henabled, rfl, hrun, hfound, hcommand, htimeout⟩ := of_order_eq_ok h
  have hmem : o.host ∈ settings.hosts := List.mem_of_find?_eq_some hfound
  have hhost : o.host.name = name := by simpa using List.find?_some hfound
  refine ⟨henabled, ⟨host, action, htarget, hhost ▸ hname, hverb⟩, hmem,
    fun h hmem' he => Settings.name_injOn hvalid hmem' hmem he, htimeout, ?_, ?_, ?_⟩
  · intro hupdate
    rw [hupdate] at hcommand
    exact (Option.some.inj hcommand).symm
  · intro hreboot
    rw [hreboot] at hcommand
    exact (Option.some.inj hcommand).symm
  · intro hisRun
    rw [hisRun, Action.command?_run, Option.map_eq_some_iff] at hcommand
    obtain ⟨command, hfilter, htrim⟩ := hcommand
    exact ⟨hrun hisRun, command, by rw [Request.asked?, hbody]; exact hfilter, htrim.symm⟩

section Verdict

variable {settings : Settings} {request : Request} {host action : String}

theorem orderVerdict_cases (hvalid : settings.validate = .ok ())
    (htarget : request.Targets host action) :
    (∃ response, orderVerdict settings request host action = .answer response ∧
      response.status.code ∉ [200, 502] ∧
      firstRefusal? settings request host action = some response.status.code) ∨
    ∃ o, orderVerdict settings request host action = .order o ∧ o.Permitted settings request ∧
      firstRefusal? settings request host action = none := by
  unfold orderVerdict
  split
  · next name verb hname hverb =>
      split
      · next fault hbody =>
          refine .inl ⟨_, rfl, ?_, firstRefusal?_of_body hname hverb hbody⟩
          cases fault <;> decide
      · next asked hbody =>
          have hfirst : firstRefusal? settings request host action = _ :=
            firstRefusal?_of_order hname hverb hbody
          split
          · next refusal hrefusal =>
              rw [hrefusal] at hfirst
              exact .inl ⟨_, rfl, refusal.status_response, hfirst⟩
          · next o ho =>
              rw [ho] at hfirst
              have hpermitted := Order.permitted_of_order hvalid htarget hname hverb hbody ho
              exact .inr ⟨o, rfl, hpermitted, hfirst⟩
  · next hnot =>
      refine .inl ⟨_, rfl, by decide, firstRefusal?_of_not_spelled ?_⟩
      cases hhost : spelled? host with
      | none => exact .inl rfl
      | some name =>
          cases haction : spelled? action with
          | none => exact .inr rfl
          | some verb => exact absurd haction (hnot name verb hhost)

theorem ofSegments?_eq_action_iff {parts : List String} :
    Route.ofSegments? parts = some (.action host action) ↔
      parts = ["", "api", "hosts", host, "actions", action] ∧ host ≠ "" ∧ action ≠ "" := by
  constructor
  · intro h
    unfold Route.ofSegments? at h
    split at h
    case h_6 name verb =>
      split at h
      · cases h
      · next hsome => cases h; exact ⟨rfl, not_or.mp hsome⟩
    case h_5 => split at h <;> cases h
    all_goals cases h
  · rintro ⟨rfl, hhost, haction⟩
    simp [Route.ofSegments?, hhost, haction]

theorem targets_iff : request.Targets host action ↔
    request.method = "POST" ∧ Route.ofAddress? request.address = some (.action host action) := by
  rw [Route.ofAddress?, ofSegments?_eq_action_iff]
  exact ⟨fun h => ⟨h.method, h.parts, h.host, h.action⟩, fun h => ⟨h.1, h.2.1, h.2.2.1, h.2.2.2⟩⟩

theorem Request.Targets.unique {host' action' : String} (h : request.Targets host action)
    (h' : request.Targets host' action') : host = host' ∧ action = action' := by
  have hparts := h.parts.symm.trans h'.parts
  simpa using hparts

theorem verdict_of_targets (store : Store) (h : request.Targets host action) :
    verdict settings store request = orderVerdict settings request host action := by
  obtain ⟨hmethod, hroute⟩ := targets_iff.mp h
  simp [verdict, hmethod, hroute, Route.allows, routeVerdict]

-- Only a request for an action can come to an order.
theorem verdict_of_no_target (store : Store) (h : ¬∃ host action, request.Targets host action) :
    ∃ response, verdict settings store request = .answer response := by
  unfold verdict
  split
  · exact ⟨_, rfl⟩
  · split
    · exact ⟨_, rfl⟩
    · next route hroute =>
        split
        · next hallows =>
            cases route with
            | action host action =>
                have hmethod : request.method = "POST" := of_decide_eq_true hallows
                exact absurd ⟨host, action, targets_iff.mpr ⟨hmethod, hroute⟩⟩ h
            | host name => simp only [routeVerdict]; split <;> exact ⟨_, rfl⟩
            | home | version | hosts | settings | stream => exact ⟨_, rfl⟩
        · exact ⟨_, rfl⟩

end Verdict

section Run

variable {ε : Type} (executor : Executor ε) {settings : Settings} (store : Store)

theorem respond_governed (hvalid : settings.validate = .ok ()) (request : Request) (s : ε) :
    (respond executor settings store request s).1.Governed settings request := by
  by_cases htarget : ∃ host action, request.Targets host action
  · obtain ⟨host, action, htargets⟩ := htarget
    have hsent : ∀ r : Response, r.sentFor request = r := fun r =>
      if_neg (by rw [htargets.method]; decide)
    rcases orderVerdict_cases hvalid htargets with
      ⟨response, hverdict, hcode, hfirst⟩ | ⟨o, hverdict, hpermitted, hfirst⟩
    · simp only [respond, verdict_of_targets store htargets, hverdict, hsent]
      refine ⟨by simp, iff_of_false (by simp) fun h => hcode h.2, by simp, ?_⟩
      intro host' action' hother
      obtain ⟨rfl, rfl⟩ := htargets.unique hother
      exact hfirst
    · simp only [respond, verdict_of_targets store htargets, hverdict, hsent]
      refine ⟨by simp, ?_, by simpa using hpermitted, ?_⟩
      · exact iff_of_true (by simp) ⟨⟨host, action, htargets⟩, o.status_response _⟩
      · intro host' action' hother
        obtain ⟨rfl, rfl⟩ := htargets.unique hother
        rw [if_neg (List.cons_ne_nil _ _)]
        exact hfirst
  · obtain ⟨response, hverdict⟩ : ∃ response, verdict settings store request = .answer response :=
      verdict_of_no_target store htarget
    simp only [respond, hverdict]
    exact ⟨by simp, iff_of_false (by simp) fun h => htarget h.1, by simp,
      fun host action h => absurd ⟨host, action, h⟩ htarget⟩

-- What a request leaves behind is what its orders leave behind.
def carryOut (s : ε) (o : Order) : ε :=
  (executor.execute o.host o.command o.timeout s).2

theorem respond_state (request : Request) (s : ε) :
    (respond executor settings store request s).2 =
      (respond executor settings store request s).1.orders.foldl (carryOut executor) s := by
  unfold respond
  split <;> rfl

theorem respond_of_no_orders {request : Request} {s : ε}
    (h : (respond executor settings store request s).1.orders = []) (s' : ε) :
    (respond executor settings store request s').1 =
      (respond executor settings store request s).1 := by
  unfold respond at h ⊢
  split
  · rfl
  · next hverdict => rw [hverdict] at h; cases h

theorem respondAll_state (requests : List Request) (s : ε) :
    (respondAll executor settings store requests s).2 =
      ((respondAll executor settings store requests s).1.flatMap (·.orders)).foldl
        (carryOut executor) s := by
  induction requests generalizing s with
  | nil => rfl
  | cons request rest ih =>
      simp only [respondAll, List.flatMap_cons, List.foldl_append, ← respond_state, ih]

-- Whatever requests come in, hosts are made to run only what the settings allow and a
-- request for an action asks for, once for each such request that is not refused. No
-- request has any other effect.
theorem respondAll_governed (hvalid : settings.validate = .ok ()) (requests : List Request)
    (s : ε) :
    List.Forall₂ (fun request x => x.Governed settings request ∧
        (x.orders = [] → ∀ s', (respond executor settings store request s').1 = x))
      requests (respondAll executor settings store requests s).1 ∧
    (respondAll executor settings store requests s).2 =
      ((respondAll executor settings store requests s).1.flatMap (·.orders)).foldl
        (carryOut executor) s := by
  refine ⟨?_, respondAll_state executor store requests s⟩
  induction requests generalizing s with
  | nil => exact .nil
  | cons request rest ih =>
      exact .cons ⟨respond_governed executor store hvalid request s,
        respond_of_no_orders executor store⟩ (ih _)

end Run

def webAndDb : Settings where
  server := ⟨8081, "0.0.0.0"⟩
  polling := ⟨30, 60, 10, none⟩
  publishing := ⟨[], none, 16⟩
  broker := none
  actions := ⟨true, true, 600⟩
  hosts := [⟨"web", "10.0.0.5", 22, "root", none, none⟩,
    ⟨"db 1", "10.0.0.6", 22, "root", none, none⟩]

-- Answers at once, apart from the second command, for which there is no connection.
def unsteady : Executor Nat where
  execute host command _ count :=
    (⟨40, if count = 1 then .error (.connection "no route to host")
      else .ok ⟨host.name ++ ": " ++ command, "", some 0⟩⟩, count + 1)

-- A byte that is no text matters in the name of a field, and not in a field that nobody
-- asks for.
def brokenName : Body := ⟨[0x7b, 0x22, 0xff, 0x22, 0x3a, 0x31, 0x7d]⟩

def brokenNote : Body := ⟨[0x7b, 0x22, 0x6e, 0x22, 0x3a, 0x22, 0xff, 0x22, 0x7d]⟩

theorem respondAll_governed_unsteady :
    let requests : List Request :=
      [⟨"POST", "/api/hosts/db%201/actions/run?now", some "application/json",
          "\x7b\"command\":\" id \"\x7d"⟩,
        ⟨"POST", "/api/hosts/web/actions/reboot", some "application/json",
          "\x7b\"command\":\"id\"\x7d"⟩,
        ⟨"POST", "/api/hosts/web/actions/run", some "application/json", "[\" \"]"⟩,
        ⟨"POST", "/api/hosts/db/actions/halt", some "text/plain", ""⟩,
        ⟨"GET", "/api/hosts/web/actions/reboot", none, ""⟩,
        ⟨"POST", "/api/hosts/web/actions/reboot", some "application/json", brokenName⟩,
        ⟨"POST", "/api/hosts/web/actions/reboot", some "application/json", brokenNote⟩]
    let run := respondAll unsteady webAndDb Store.inMemory requests 0
    webAndDb.validate = .ok () ∧
    run.1.map (fun x => (x.response.status.code,
        x.orders.map fun o => (o.host.name, o.command, o.timeout))) =
      [(200, [("db 1", "id", 600000)]), (502, [("web", Action.rebootCommand, 600000)]),
        (400, []), (415, []), (405, []), (400, []),
        (200, [("web", Action.rebootCommand, 600000)])] ∧
    List.Forall₂ (fun request x => x.Governed webAndDb request ∧
        (x.orders = [] → ∀ s', (respond unsteady webAndDb Store.inMemory request s').1 = x))
      requests run.1 ∧
    run.2 = (run.1.flatMap (·.orders)).foldl (carryOut unsteady) 0 := by
  intro requests run
  have hvalid : webAndDb.validate = .ok () := by decide +kernel
  exact ⟨hvalid, by decide +kernel, respondAll_governed unsteady Store.inMemory hvalid requests 0⟩

-- An object without any fields, behind this many blanks.
@[irreducible]
def padded (count : Nat) : Body := ⟨List.replicate count 0x20 ++ [0x7b, 0x7d]⟩

theorem length_padded (count : Nat) : (padded count).bytes.length = count + 2 := by
  unfold padded
  rw [List.length_append, List.length_replicate]
  rfl

def paddedReboot (count : Nat) : Request :=
  ⟨"POST", "/api/hosts/web/actions/reboot", some "application/json", padded count⟩

theorem paddedReboot_targets (count : Nat) : (paddedReboot count).Targets "web" "reboot" :=
  ⟨rfl, (by decide : (segments (path "/api/hosts/web/actions/reboot".toList)).map String.ofList =
    ["", "api", "hosts", "web", "actions", "reboot"]), by decide, by decide⟩

theorem firstRefusal?_paddedReboot (settings : Settings) {count : Nat} (h : 2097150 < count) :
    firstRefusal? settings (paddedReboot count) "web" "reboot" = some 413 := by
  have hname : spelled? "web" = some "web" := by decide +kernel
  have haction : spelled? "reboot" = some "reboot" := by decide +kernel
  have hlong : 2097152 < (paddedReboot count).body.bytes.length := by
    rw [paddedReboot, length_padded]
    omega
  have hbody : bodyRefusal? (paddedReboot count) = some 413 :=
    bodyRefusal?_of_long rfl (by decide : Body.isJson "application/json" = true) hlong
  simp [firstRefusal?, refusals, hname, haction, hbody]

-- The length of a body is one more reason to refuse a request, with a status of its own.
theorem refused_for_length :
    ¬∀ (settings : Settings) (store : Store) (request : Request) (host action : String) (s : Nat),
      settings.validate = .ok () → request.Targets host action →
        (respond unsteady settings store request s).1.orders = [] →
          (respond unsteady settings store request s).1.response.status.code ∈
            [400, 415, 422, 403, 404] := by
  intro hlisted
  have hvalid : webAndDb.validate = .ok () := by decide +kernel
  have htargets := paddedReboot_targets 2097152
  have hgoverned := respond_governed unsteady Store.inMemory hvalid (paddedReboot 2097152) 0
  have hrefused := hgoverned.refused "web" "reboot" htargets
  rw [firstRefusal?_paddedReboot webAndDb (by decide)] at hrefused
  split at hrefused
  · next hnone =>
      have hstatus := hlisted webAndDb Store.inMemory _ "web" "reboot" 0 hvalid htargets hnone
      rw [← Option.some.inj hrefused] at hstatus
      revert hstatus
      decide
  · cases hrefused

end Api

end HostTelemetry
