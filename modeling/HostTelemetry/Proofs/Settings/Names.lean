import HostTelemetry.Settings.Validate
import Mathlib.Data.List.Nodup

namespace HostTelemetry.Settings

theorem ok_of_bind {α : Type} {check : Except Invalid Unit} {next : Unit → Except Invalid α} {a : α}
    (h : (check >>= next) = .ok a) : check = .ok () ∧ next () = .ok a := by
  cases check with
  | error e => cases h
  | ok u => exact ⟨rfl, h⟩

-- The hosts are checked last.
theorem checkHosts_of_validate {s : Settings} (h : s.validate = .ok ()) :
    checkHosts [] s.hosts = .ok () := by
  unfold validate at h
  iterate 9 replace h := (ok_of_bind h).2
  exact h

theorem slug_not_mem_of_sound {earlier : List String} {h : Host}
    (hsound : hostProblem? earlier h = none) : Text.slug h.name ∉ earlier.map Text.slug := by
  unfold hostProblem? at hsound
  split at hsound
  · cases hsound
  · split at hsound
    · cases hsound
    · split at hsound
      · cases hsound
      · next hnone =>
          intro hmem
          obtain ⟨other, hother, he⟩ := List.mem_map.mp hmem
          have hdiffers := List.find?_eq_none.mp hnone other hother
          simp [he] at hdiffers

theorem nodup_slugs_of_checkHosts {earlier : List String} {hosts : List Host}
    (h : checkHosts earlier hosts = .ok ()) (hearlier : (earlier.map Text.slug).Nodup) :
    ((earlier ++ hosts.map (·.name)).map Text.slug).Nodup := by
  induction hosts generalizing earlier with
  | nil => simpa using hearlier
  | cons host rest ih =>
      simp only [checkHosts] at h
      split at h
      · cases h
      · next hsound =>
          have hnew := slug_not_mem_of_sound hsound
          have hnext : ((earlier ++ [host.name]).map Text.slug).Nodup := by
            simpa using hearlier.concat hnew
          simpa using ih h hnext

-- Accepted hosts are told apart by the slugs of their names.
theorem slug_injOn {s : Settings} (h : s.validate = .ok ()) {host other : Host}
    (hhost : host ∈ s.hosts) (hother : other ∈ s.hosts)
    (he : Text.slug host.name = Text.slug other.name) : host = other := by
  have hnodup := nodup_slugs_of_checkHosts (checkHosts_of_validate h) List.nodup_nil
  rw [List.nil_append, List.map_map] at hnodup
  exact List.inj_on_of_nodup_map hnodup hhost hother he

theorem name_injOn {s : Settings} (h : s.validate = .ok ()) {host other : Host}
    (hhost : host ∈ s.hosts) (hother : other ∈ s.hosts) (he : host.name = other.name) :
    host = other :=
  slug_injOn h hhost hother (congrArg Text.slug he)

end HostTelemetry.Settings
