/-
  Handfast.Core.Store

  The persistent state (`crates/core/src/store.rs`): the paired-device registry
  and the key/value settings.  Each is one SQLite table; the primary key of the
  device table is the invariant `keyed`.

  Whether SQLite accepts a write is decided outside the program, so a write
  takes the outcome (`none`, or the driver's message) as an argument and leaves
  the table alone when it fails.
-/
import Handfast.Lib.Table
import Handfast.Core.Bus
import Mathlib.Data.List.Sort

namespace Handfast.Core

open Handfast.Lib

structure DeviceRow where
  deviceId : String
  name : String
  deviceType : String
  certFingerprint : String
  paired : Bool
  lastSeen : Option Int
  deriving DecidableEq, Repr

structure Store where
  devices : Table String DeviceRow
  kv : Table String String
  /-- `device_id` is the primary key. -/
  keyed : ∀ id row, devices.get id = some row → row.deviceId = id

namespace Store

def empty : Store where
  devices := .empty
  kv := .empty
  keyed := by simp

def listDevices (s : Store) : List DeviceRow :=
  (s.devices.entries.map Prod.snd).insertionSort fun a b => a.deviceId ≤ b.deviceId

def put (s : Store) (d : DeviceRow) : Store where
  devices := s.devices.insert d.deviceId d
  kv := s.kv
  keyed := by
    intro id row h
    rw [Table.get_insert] at h
    split at h
    · rename_i hid
      rw [← Option.some.inj h, hid]
    · exact s.keyed id row h

/-- Insert or update a device record keyed by `device_id`. -/
def upsertDevice (s : Store) (fails : Option String) (d : DeviceRow) : Result Unit × Store :=
  match fails with
  | none => (.ok (), s.put d)
  | some msg => (.error (.sqlite msg), s)

def kvGet (s : Store) (fails : Option String) (key : String) : Result (Option String) :=
  match fails with
  | none => .ok (s.kv.get key)
  | some msg => .error (.sqlite msg)

def kvSet (s : Store) (fails : Option String) (key value : String) : Result Unit × Store :=
  match fails with
  | none => (.ok (), { s with kv := s.kv.insert key value })
  | some msg => (.error (.sqlite msg), s)

@[simp] theorem put_devices (s : Store) (d : DeviceRow) :
    (s.put d).devices = s.devices.insert d.deviceId d := rfl

@[simp] theorem upsertDevice_kv (s : Store) (fails : Option String) (d : DeviceRow) :
    (s.upsertDevice fails d).2.kv = s.kv := by
  cases fails <;> rfl

/-- The listing is the table. -/
theorem mem_listDevices {s : Store} {row : DeviceRow} :
    row ∈ s.listDevices ↔ s.devices.get row.deviceId = some row := by
  rw [listDevices, List.mem_insertionSort, List.mem_map]
  constructor
  · rintro ⟨⟨id, row'⟩, hmem, rfl⟩
    have hget := Table.mem_entries_iff.mp hmem
    rw [s.keyed id row' hget]
    exact hget
  · intro h
    exact ⟨(row.deviceId, row), Table.mem_entries_iff.mpr h, rfl⟩

theorem nodup_listDevices (s : Store) : (s.listDevices.map DeviceRow.deviceId).Nodup := by
  have hkeys : (s.devices.entries.map Prod.snd).map DeviceRow.deviceId =
      s.devices.entries.map Prod.fst := by
    rw [List.map_map]
    apply List.map_congr_left
    rintro ⟨id, row⟩ hmem
    exact s.keyed id row (Table.mem_entries_iff.mp hmem)
  have hperm := (List.perm_insertionSort (fun a b : DeviceRow => a.deviceId ≤ b.deviceId)
    (s.devices.entries.map Prod.snd)).map DeviceRow.deviceId
  rw [listDevices, hperm.nodup_iff, hkeys]
  exact Table.nodup_keys_entries _

end Store
end Handfast.Core
