/-
  Handfast.Daemon.News

  What is published about a device.  No device is ever reported lost, and the
  table grows by exactly the devices that are reported as found.
-/
import Handfast.Daemon.LinkRefine

namespace Handfast.Daemon

open Handfast.Lib Handfast.Protocol Handfast.Core

namespace Link

/-- No device is ever reported lost. -/
theorem lost_not_mem_notices (l : Link) (i : Input) : Notice.lost ∉ l.notices i := by
  have hpersist (paired : Bool) : Notice.lost ∉ l.persistNotices paired := by
    unfold persistNotices
    split <;> simp
  unfold notices
  cases i <;> dsimp only
  case attach => split <;> [skip; split] <;> simp
  case pair =>
    split
    · split <;> simp [hpersist]
    · split
      · split <;> [skip; split] <;> simp [hpersist]
      · simp [hpersist]
  case answer =>
    split
    · simp
    · split <;> [split; skip] <;> simp [hpersist]
  all_goals first | exact hpersist false | split <;> simp | simp

theorem step_known_iff (l : Link) (i : Input) :
    (l.step i).known = true ↔ l.known = true ∨ .found ∈ l.notices i := by
  have hpersist (paired : Bool) : Notice.found ∉ l.persistNotices paired := by
    unfold persistNotices
    split <;> simp
  cases i with
  | announce => cases hk : l.known <;> simp [step, notices, hk]
  | attach conn fingerprint =>
    simp only [step, notices]
    split
    · simp
    · cases hk : l.known <;> simp
  | pair wants auto now saved =>
    simp only [step, notices]
    split_ifs <;> simp [hpersist]
  | start reply queued =>
    simp only [step, notices]
    split <;> simp
  | unpair saved => simp [step, notices, hpersist]
  | answer accept now saved =>
    simp only [step, notices]
    cases l.parked with
    | none => simp
    | some deadline => by_cases hnow : now ≤ deadline <;> cases accept <;> simp [hnow, hpersist]
  | close | expire | idle => simp [step, notices]

end Link

namespace Manager

variable {m : Manager} {d : String}

theorem link_known_eq : (m.link d).known = (m.devices.get d).isSome := rfl

/-- No handler ever announces that a device was lost. -/
theorem lost_not_published (m : Manager) (env : Env) (c : Command) :
    ∀ x ∈ news (m.handle env c).2, x.2 ≠ .lost := by
  intro x hx hlost
  rw [handle_news] at hx
  cases hc : c.device with
  | none => simp [hc] at hx
  | some d =>
    rw [hc] at hx
    obtain ⟨n, hn, rfl⟩ := List.mem_map.mp hx
    obtain rfl : n = .lost := hlost
    exact Link.lost_not_mem_notices _ _ hn

def about (d : String) (xs : List (String × Notice)) : List Notice :=
  xs.filterMap fun x => if x.1 = d then some x.2 else none

theorem about_addressed (d e : String) (notices : List Notice) :
    about d (addressed e notices) = if e = d then notices else [] := by
  by_cases h : e = d <;> simp [about, addressed, h]

/-- What a command publishes about one device is what its link puts out. -/
theorem about_handle (m : Manager) (env : Env) (d : String) (c : Command) :
    about d (news (m.handle env c).2) = (m.link d).notices (m.linkInput env d c) := by
  rw [handle_news, linkInput]
  cases hc : c.device with
  | none => rfl
  | some e =>
    rw [about_addressed]
    by_cases he : e = d
    · subst he
      simp
    · have hne : some e ≠ some d := fun h => he (Option.some.inj h)
      rw [if_neg he, if_neg hne]
      rfl

/-- The event that a device is found puts it among the notices about it. -/
theorem found_mem_about {events : List Event} :
    .found ∈ about d (events.filterMap newsOf) ↔ ∃ name, .deviceFound d name ∈ events := by
  simp only [about, List.mem_filterMap]
  constructor
  · rintro ⟨x, ⟨ev, hev, hx⟩, hd⟩
    by_cases he : x.1 = d
    · rw [if_pos he, Option.some_inj] at hd
      cases ev with
      | deviceFound id name =>
        cases hx
        obtain rfl : id = d := he
        exact ⟨name, hev⟩
      | deviceLost id | deviceStateChanged id label =>
        cases hx
        cases hd
      | _ => cases hx
    · rw [if_neg he] at hd
      cases hd
  · rintro ⟨name, hev⟩
    exact ⟨(d, .found), ⟨_, hev, rfl⟩, if_pos rfl⟩

/-- The table grows by the devices that are published as found. -/
theorem handle_known_iff (m : Manager) (env : Env) (d : String) (c : Command) :
    ((m.handle env c).1.devices.get d).isSome = true ↔
      (m.devices.get d).isSome = true ∨
        ∃ name, .deviceFound d name ∈ published (m.handle env c).2 := by
  rw [← link_known_eq, ← link_known_eq, handle_link, Link.step_known_iff, ← about_handle, news,
    found_mem_about]

end Manager
end Handfast.Daemon
