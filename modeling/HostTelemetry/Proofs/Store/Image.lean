import HostTelemetry.Proofs.Record.RoundTrip
import HostTelemetry.Proofs.Store.Basic
import HostTelemetry.Proofs.Text.Utf8

namespace HostTelemetry.Store

-- A list of records is read from its bytes as it was.
theorem decode_encode {rs : List Record} (hfits : ∀ r ∈ rs, r.Fits)
    (hfloats : ∀ r ∈ rs, r.ReadsBack) : decode (encode rs) = rs := by
  rw [decode, encode, Text.Utf8.decode?_encode, Option.bind_some,
    Record.readList?_pretty hfits hfloats, Option.getD_some]

theorem decode_fits (bytes : List UInt8) : ∀ r ∈ decode bytes, r.Fits := by
  intro r hr
  unfold decode at hr
  cases hread : (Text.Utf8.decode? bytes).bind Record.readList? with
  | none => rw [hread] at hr; cases hr
  | some rs =>
      rw [hread] at hr
      obtain ⟨text, -, hlist⟩ := Option.bind_eq_some_iff.mp hread
      exact Record.readList?_fits hlist r hr

-- Whatever file a store is opened on, it is as sound as one that was built in memory,
-- and its records can be written again.
theorem openAt_sound {path : Files.Path} {files : Files} {s : Store}
    (h : openAt path files = .ok s) : s.path = some path ∧ s.Sound ∧ ∀ r ∈ s.all, r.Fits := by
  unfold openAt at h
  split at h
  · next bytes _ =>
      cases h
      refine ⟨rfl, ⟨putAll_ascending .nil _, putAll_named (List.forall_mem_nil _) _⟩, ?_⟩
      intro r hr
      obtain ⟨entry, hentry, rfl⟩ := List.mem_map.mp hr
      exact decode_fits bytes _ ((mem_of_mem_putAll hentry).resolve_left List.not_mem_nil)
  · cases h
    exact ⟨rfl, ⟨.nil, List.forall_mem_nil _⟩, List.forall_mem_nil _⟩
  · cases h

-- A store is opened again from the bytes that it was written as.
theorem openAt_encode {path : Files.Path} {files : Files} {s : Store} (hpath : s.path = some path)
    (hsound : s.Sound) (hfits : ∀ r ∈ s.all, r.Fits) (hfloats : ∀ r ∈ s.all, r.ReadsBack)
    (hread : files.read path = .ok (encode s.all)) : openAt path files = .ok s := by
  rw [openAt, hread]
  dsimp only
  rw [decode_encode hfits hfloats, hsound.putAll_all, ← hpath]

end HostTelemetry.Store
