import HostTelemetry.Publish.Queue
import Mathlib.Logic.Relation

namespace HostTelemetry.Publish

open Relation (ReflTransGen)

theorem succeeded_iff {answer : Except String Unit} : succeeded answer = true ↔ answer = .ok () := by
  cases answer <;> simp [succeeded]

namespace Link

-- What may happen to a link: something on the broker's side, or a message is put into
-- the queue. The latter takes a connection and room.
inductive Step : Link → Link → Prop
  | passed (l : Link) (later : List Moment) : Step l { l with upcoming := later }
  | disturbed (l : Link) (d : Disturbance) : Step l (l.disturb d)
  | enqueued (l : Link) (m : Message) (connected : l.isConnected) (room : l.canTake m.topic) :
      Step l (l.put m)

@[simp] theorem disturb_accepted (l : Link) (d : Disturbance) :
    (l.disturb d).accepted = l.accepted := by
  cases d <;> rfl

@[simp] theorem foldl_disturb_accepted (ds : List Disturbance) (l : Link) :
    (ds.foldl disturb l).accepted = l.accepted := by
  induction ds generalizing l with
  | nil => rfl
  | cons d rest ih => rw [List.foldl_cons, ih, disturb_accepted]

@[simp] theorem advance_accepted (l : Link) : l.advance.accepted = l.accepted := by
  rw [advance, foldl_disturb_accepted]
  exact foldl_disturb_accepted _ l

theorem foldl_disturb_steps (ds : List Disturbance) (l : Link) :
    ReflTransGen Step l (ds.foldl disturb l) := by
  induction ds generalizing l with
  | nil => exact .refl
  | cons d rest ih => exact .head (.disturbed l d) (ih _)

theorem found_steps (l : Link) : ReflTransGen Step l l.found :=
  (foldl_disturb_steps l.moment.before l).tail (.passed _ l.upcoming.tail)

theorem advance_steps (l : Link) : ReflTransGen Step l l.advance :=
  l.found_steps.trans (foldl_disturb_steps _ _)

-- Whatever happens on the broker's side, some messages leave the queue and the connection
-- is there or not in the end.
theorem foldl_disturb_eq (ds : List Disturbance) (l : Link) : ∃ count isConnected,
    ds.foldl disturb l = { l with isConnected := isConnected, queue := l.queue.drop count } := by
  induction ds generalizing l with
  | nil => exact ⟨0, l.isConnected, by rw [List.drop_zero]; rfl⟩
  | cons d rest ih =>
      obtain ⟨count, isConnected, h⟩ := ih (l.disturb d)
      rw [List.foldl_cons, h]
      cases d with
      | connected | disconnected => exact ⟨count, isConnected, rfl⟩
      | drained first => exact ⟨first + count, isConnected, by rw [disturb, List.drop_drop]⟩

-- A message that found the link connected might as well have been put in while it still
-- was: what left the queue meanwhile leaves it first, and a break comes afterwards.
theorem put_steps {l : Link} (hconnected : l.isConnected = true) (ds : List Disturbance)
    {m : Message} (hroom : (ds.foldl disturb l).canTake m.topic = true) :
    ReflTransGen Step l ((ds.foldl disturb l).put m) := by
  obtain ⟨count, isConnected, h⟩ := foldl_disturb_eq ds l
  rw [h] at hroom ⊢
  have hdrained : ReflTransGen Step l (l.disturb (.drained count)) :=
    .single (.disturbed l (.drained count))
  have hput := hdrained.tail (.enqueued _ m hconnected hroom)
  cases isConnected with
  | true => exact hput.tail (.disturbed _ .connected)
  | false => exact hput.tail (.disturbed _ .disconnected)

-- A message is taken if it finds a connection and there is room for it when it comes to
-- the queue; otherwise nothing but its moment has passed.
theorem send_cases (b : Broker) (m : Message) (l : Link) :
    (l.found.isConnected = true ∧ l.advance.canTake m.topic = true ∧
      send b m l = (.ok (), l.advance.put m)) ∨
    ((l.found.isConnected = true → l.advance.canTake m.topic = false) ∧
      ∃ e, send b m l = (.error e, l.advance)) := by
  unfold send
  split
  · next hdown => exact .inr ⟨fun hup => by simp [hup] at hdown, _, rfl⟩
  · next hup =>
      split
      · next hfull => exact .inr ⟨fun _ => by simpa using hfull, _, rfl⟩
      · next hroom => exact .inl ⟨by simpa using hup, by simpa using hroom, rfl⟩

theorem send_steps (b : Broker) (m : Message) (l : Link) :
    ReflTransGen Step l (send b m l).2 := by
  rcases send_cases b m l with ⟨hconnected, hroom, he⟩ | ⟨-, e, he⟩ <;> rw [he]
  · exact l.found_steps.trans (put_steps hconnected _ hroom)
  · exact advance_steps l

-- Whether a message is taken or not, nothing else is.
theorem send_accepted (b : Broker) (m : Message) (l : Link) :
    (send b m l).1 = .ok () ∧ (send b m l).2.accepted = l.accepted ++ [m] ∨
      (send b m l).1 ≠ .ok () ∧ (send b m l).2.accepted = l.accepted := by
  rcases send_cases b m l with ⟨-, -, he⟩ | ⟨-, e, he⟩ <;> rw [he] <;> simp [put]

-- A row of messages is taken up to some place in it, and the call succeeds if that is
-- its end.
theorem sendAll_accepted (b : Broker) (ms : List Message) (l : Link) :
    ∃ j ≤ ms.length, (sendAll b ms l).2.accepted = l.accepted ++ ms.take j ∧
      ((sendAll b ms l).1 = .ok () ↔ j = ms.length) := by
  induction ms generalizing l with
  | nil => exact ⟨0, Nat.le_refl _, (List.append_nil _).symm, by simp [sendAll]⟩
  | cons m rest ih =>
      rw [sendAll]
      rcases send_cases b m l with ⟨-, -, he⟩ | ⟨-, e, he⟩ <;> rw [he]
      · obtain ⟨j, hj, haccepted, hok⟩ := ih (l.advance.put m)
        refine ⟨j + 1, Nat.succ_le_succ hj, ?_, ?_⟩
        · rw [haccepted, put, advance_accepted, List.append_assoc]
          rfl
        · rw [hok, List.length_cons, Nat.add_right_cancel_iff]
      · exact ⟨0, Nat.zero_le _, by simp, by simp⟩

theorem sendAll_steps (b : Broker) (ms : List Message) (l : Link) :
    ReflTransGen Step l (sendAll b ms l).2 := by
  induction ms generalizing l with
  | nil => exact .refl
  | cons m rest ih =>
      have hsend := send_steps b m l
      rw [sendAll]
      rcases send_cases b m l with ⟨-, -, he⟩ | ⟨-, e, he⟩ <;> rw [he] at hsend ⊢
      · exact hsend.trans (ih _)
      · exact hsend

end Link

end HostTelemetry.Publish
