/-
  Handfast.Protocol.Tls

  The device identity on disk (`crates/protocol/src/tls.rs`): a certificate and
  its key in two files, loaded by `CertPair::load_or_generate` or generated and
  put in place by two renames, the certificate first.

  A call meets its `CallIo`: what becomes of each file operation, and the pair
  the generator returns.  Every operation may fail, and the process may die at
  it, before or after its effect.  A rename takes effect as a whole and what
  was renamed survives.  Other files of the directory are left out, except the
  temporary ones.

  Between the two renames the directory holds the new certificate and what was
  there as key.  That is harmless while the key is missing or empty, since the
  next call generates again; `call_cases` lists what a call leaves behind, and
  `Settled` is the invariant that follows from it.
-/
import Handfast.Lib.Files
import Handfast.Lib.Trace
import Handfast.Protocol.Framing

namespace Handfast.Protocol.Tls

open Handfast.Lib Handfast.Protocol.Framing

abbrev Dir := Files String UInt8

/-- File name of the DER-encoded device certificate inside the state directory. -/
def certFileName : String := "id_cert.der"

/-- File name of the DER-encoded PKCS#8 device key inside the state directory. -/
def keyFileName : String := "id_key.der"

/-- Device TLS material: leaf certificate, private key and pinned fingerprint. -/
structure CertPair where
  certDer : List UInt8
  keyDerPkcs8 : List UInt8
  fingerprintSha256 : Fingerprint
  deriving DecidableEq

/-! ## File operations -/

/-- What becomes of one file operation. -/
inductive Fate where
  | works
  | fails (msg : String)
  /-- The process dies at it, after the operation took effect or before. -/
  | crashes (done : Bool)
  deriving DecidableEq, Repr

/-- How a call, or a part of it, ends. -/
inductive Outcome (α : Type) where
  | ok (a : α)
  | err (e : Error)
  | crashed
  deriving DecidableEq

def Outcome.handed {α : Type} : Outcome α → List α
  | ok a => [a]
  | _ => []

/-- The operations of `persist_atomic`. -/
structure PersistIo where
  pid : Nat
  nonce : Nat
  create : Fate
  write : Fate
  /-- How many bytes reach the temporary file if the write does not work. -/
  written : Nat
  sync : Fate
  rename : Fate
  /-- Removal of the temporary file after an error. -/
  remove : Fate
  deriving DecidableEq

/-- A certificate and a key as the generator makes them; `Matches` says that a
    key belongs to a certificate. -/
structure Generated (Matches : List UInt8 → List UInt8 → Prop) where
  cert : List UInt8
  key : List UInt8
  cert_ne : cert ≠ []
  key_ne : key ≠ []
  pair : Matches cert key

/-- What one call of `load_or_generate` meets. -/
structure CallIo (Matches : List UInt8 → List UInt8 → Prop) where
  readCert : Fate
  readKey : Fate
  generateSelfSigned : Except String (Generated Matches)
  cert : PersistIo
  key : PersistIo

/-- `fs::read`. -/
def readFile (dir : Dir) (fate : Fate) (name : String) : Outcome (List UInt8) :=
  match fate with
  | .crashes _ => .crashed
  | .fails msg => .err (.io msg)
  | .works =>
    match dir.read name with
    | some bytes => .ok bytes
    | none => .err (.io "No such file or directory (os error 2)")

/-- The temporary file of `persist_atomic`. -/
def tmpName (io : PersistIo) (fileName : String) : String :=
  s!".{fileName}.{io.pid}.{io.nonce}.tmp"

/-- `write_private_then_rename`. -/
def writePrivateThenRename (dir : Dir) (io : PersistIo) (tmp target : String)
    (bytes : List UInt8) : Outcome Unit × Dir :=
  match io.create with
  | .fails msg => (.err (.io msg), dir)
  | .crashes done => (.crashed, if done ∧ ¬ dir.has tmp then dir.put tmp [] else dir)
  | .works =>
    if dir.has tmp then (.err (.io "File exists (os error 17)"), dir)
    else
      match io.write with
      | .fails msg => (.err (.io msg), dir.put tmp (bytes.take io.written))
      | .crashes _ => (.crashed, dir.put tmp (bytes.take io.written))
      | .works =>
        let full := dir.put tmp bytes
        match io.sync with
        | .fails msg => (.err (.io msg), full)
        | .crashes _ => (.crashed, full)
        | .works =>
          match io.rename with
          | .fails msg => (.err (.io msg), full)
          | .crashes done => (.crashed, if done then full.rename tmp target else full)
          | .works => (.ok (), full.rename tmp target)

/-- `persist_atomic` of a file of the directory (whose names are plain text, so
    the error for other paths cannot come up). -/
def persistAtomic (dir : Dir) (io : PersistIo) (fileName : String) (bytes : List UInt8) :
    Outcome Unit × Dir :=
  let tmp := tmpName io fileName
  match writePrivateThenRename dir io tmp fileName bytes with
  | (.err e, dir') =>
    match io.remove with
    | .works => (.err e, dir'.remove tmp)
    | .fails _ => (.err e, dir')
    | .crashes done => (.crashed, if done then dir'.remove tmp else dir')
  | (result, dir') => (result, dir')

section

variable {Matches : List UInt8 → List UInt8 → Prop} (digest : List UInt8 → Fingerprint)

/-- The first part of `load_or_generate`: the pair on disk, if both files can be
    read and are not empty. -/
def load (dir : Dir) (io : CallIo Matches) : Outcome (Option CertPair) :=
  match readFile dir io.readCert certFileName with
  | .crashed => .crashed
  | cert =>
    match readFile dir io.readKey keyFileName with
    | .crashed => .crashed
    | key =>
      match cert, key with
      | .ok certDer, .ok keyDer =>
        if ¬ certDer.isEmpty ∧ ¬ keyDer.isEmpty then
          .ok (some ⟨certDer, keyDer, digest certDer⟩)
        else .ok none
      -- an error is treated like a missing file
      | _, _ => .ok none

/-- `CertPair::load_or_generate`. -/
def loadOrGenerate (dir : Dir) (io : CallIo Matches) : Outcome CertPair × Dir :=
  match load digest dir io with
  | .crashed => (.crashed, dir)
  | .err e => (.err e, dir)
  | .ok (some pair) => (.ok pair, dir)
  | .ok none =>
    match io.generateSelfSigned with
    | .error msg => (.err (.cert msg), dir)
    | .ok gen =>
      match persistAtomic dir io.cert certFileName gen.cert with
      | (.err e, dir₁) => (.err e, dir₁)
      | (.crashed, dir₁) => (.crashed, dir₁)
      | (.ok (), dir₁) =>
        match persistAtomic dir₁ io.key keyFileName gen.key with
        | (.err e, dir₂) => (.err e, dir₂)
        | (.crashed, dir₂) => (.crashed, dir₂)
        | (.ok (), dir₂) => (.ok ⟨gen.cert, gen.key, digest gen.cert⟩, dir₂)

end

/-! ## What a call leaves behind -/

theorem tmpName_ne (io : PersistIo) (fileName : String) {name : String}
    (h : name = certFileName ∨ name = keyFileName) : name ≠ tmpName io fileName := by
  have hdot : (tmpName io fileName).toList.head? = some '.' := by
    have htext : ∀ text : String, toString text = text := fun _ => rfl
    simp [tmpName, htext]
  rintro rfl
  rcases h with h | h <;> (rw [h] at hdot; revert hdot; decide)

section Persist

variable {dir : Dir} {io : PersistIo} {tmp target : String} {bytes : List UInt8}

/-- The target still holds what it held, or it holds the new bytes; other files
    than these two are left alone.  Only a success is sure of the new bytes. -/
theorem writePrivateThenRename_cases :
    ((writePrivateThenRename dir io tmp target bytes).1 ≠ .ok () ∧
      ∀ q, q ≠ tmp → (writePrivateThenRename dir io tmp target bytes).2.read q = dir.read q) ∨
    ((∀ e, (writePrivateThenRename dir io tmp target bytes).1 ≠ .err e) ∧
      ∀ q, q ≠ tmp → (writePrivateThenRename dir io tmp target bytes).2.read q =
        if q = target then some bytes else dir.read q) := by
  have hput : ∀ content q, q ≠ tmp → (dir.put tmp content).read q = dir.read q :=
    fun content q hq => by simp [hq]
  have hrenamed : ∀ q, q ≠ tmp → ((dir.put tmp bytes).rename tmp target).read q =
      if q = target then some bytes else dir.read q := by
    intro q hq
    have hfull : (dir.put tmp bytes).read tmp = some bytes := by simp
    by_cases hqt : q = target
    · rw [hqt, Files.read_rename_target hfull, if_pos rfl]
    · rw [Files.read_rename_of_ne hq hqt, if_neg hqt, hput _ q hq]
  -- up to the rename only the temporary file is touched
  unfold writePrivateThenRename
  cases io.create with
  | fails msg => exact .inl ⟨nofun, fun q _ => rfl⟩
  | crashes done =>
    refine .inl ⟨nofun, fun q hq => ?_⟩
    dsimp only
    split
    · exact hput _ q hq
    · rfl
  | works =>
    dsimp only
    split
    · exact .inl ⟨nofun, fun q _ => rfl⟩
    cases io.write with
    | fails msg | crashes done => exact .inl ⟨nofun, fun q hq => hput _ q hq⟩
    | works =>
      cases io.sync with
      | fails msg | crashes done => exact .inl ⟨nofun, fun q hq => hput _ q hq⟩
      | works =>
        cases io.rename with
        | fails msg => exact .inl ⟨nofun, fun q hq => hput _ q hq⟩
        | crashes done =>
          cases done with
          | false => exact .inl ⟨nofun, fun q hq => hput _ q hq⟩
          | true => exact .inr ⟨nofun, hrenamed⟩
        | works => exact .inr ⟨nofun, hrenamed⟩

/-- The same for `persist_atomic`, which removes the temporary file at an error. -/
theorem persistAtomic_cases (fileName : String) :
    ((persistAtomic dir io fileName bytes).1 ≠ .ok () ∧ ∀ q, q ≠ tmpName io fileName →
      (persistAtomic dir io fileName bytes).2.read q = dir.read q) ∨
    ((∀ e, (persistAtomic dir io fileName bytes).1 ≠ .err e) ∧ ∀ q, q ≠ tmpName io fileName →
      (persistAtomic dir io fileName bytes).2.read q =
        if q = fileName then some bytes else dir.read q) := by
  have hcases := @writePrivateThenRename_cases dir io (tmpName io fileName) fileName bytes
  unfold persistAtomic
  dsimp only
  cases hwrite : writePrivateThenRename dir io (tmpName io fileName) fileName bytes with
  | mk result dir' =>
    rw [hwrite] at hcases
    cases result with
    | ok u => exact hcases
    | crashed => exact hcases
    | err e =>
      -- an error leaves the target as it was
      rcases hcases with ⟨-, hsame⟩ | ⟨hno, -⟩
      · have hremoved : ∀ q, q ≠ tmpName io fileName →
            (dir'.remove (tmpName io fileName)).read q = dir.read q := by
          intro q hq
          rw [Files.read_remove, if_neg hq, hsame q hq]
        cases io.remove with
        | works => exact .inl ⟨nofun, hremoved⟩
        | fails msg => exact .inl ⟨nofun, hsame⟩
        | crashes done =>
          cases done with
          | false => exact .inl ⟨nofun, hsame⟩
          | true => exact .inl ⟨nofun, hremoved⟩
      · exact absurd rfl (hno e)

end Persist

section Calls

variable {Matches : List UInt8 → List UInt8 → Prop} {digest : List UInt8 → Fingerprint}
  {dir dir' : Dir} {io : CallIo Matches} {pair : CertPair}

/-- The two files hold the pair, and neither is empty. -/
structure Holds (dir : Dir) (pair : CertPair) : Prop where
  cert : dir.read certFileName = some pair.certDer
  key : dir.read keyFileName = some pair.keyDerPkcs8
  cert_ne : pair.certDer ≠ []
  key_ne : pair.keyDerPkcs8 ≠ []

def keyComplete (dir : Dir) : Bool := (dir.read keyFileName).any fun key => !key.isEmpty

theorem Holds.keyComplete (h : Holds dir pair) : keyComplete dir = true := by
  simp [Tls.keyComplete, h.key, h.key_ne]

theorem readFile_ok {fate : Fate} {name : String} {bytes : List UInt8}
    (h : readFile dir fate name = .ok bytes) : dir.read name = some bytes := by
  unfold readFile at h
  cases fate with
  | crashes done => cases h
  | fails msg => cases h
  | works =>
    cases hread : dir.read name with
    | none =>
      rw [hread] at h
      cases h
    | some content =>
      rw [hread] at h
      cases h
      rfl

/-- What is loaded is on disk, with the fingerprint of the certificate. -/
theorem load_some (h : load digest dir io = .ok (some pair)) :
    Holds dir pair ∧ pair.fingerprintSha256 = digest pair.certDer := by
  unfold load at h
  cases hcert : readFile dir io.readCert certFileName with
  | crashed =>
    rw [hcert] at h
    cases h
  | err e =>
    rw [hcert] at h
    cases hkey : readFile dir io.readKey keyFileName <;> (rw [hkey] at h; cases h)
  | ok cert =>
    rw [hcert] at h
    cases hkey : readFile dir io.readKey keyFileName with
    | crashed =>
      rw [hkey] at h
      cases h
    | err e =>
      rw [hkey] at h
      cases h
    | ok key =>
      rw [hkey] at h
      dsimp only at h
      -- an empty file counts as none
      split at h
      · rename_i hne
        cases h
        exact ⟨⟨readFile_ok hcert, readFile_ok hkey, by simpa using hne.1,
          by simpa using hne.2⟩, rfl⟩
      · cases h

/-- What a call can do: load the pair, stop with both files as they were, put
    only the new certificate in place, or both new files. -/
inductive Call (digest : List UInt8 → Fingerprint) (dir : Dir) (io : CallIo Matches) :
    Outcome CertPair → Dir → Prop
  | loaded (pair : CertPair) (hload : load digest dir io = .ok (some pair)) :
      Call digest dir io (.ok pair) dir
  | stopped {o : Outcome CertPair} {dir' : Dir} (hno : ∀ pair, o ≠ .ok pair)
      (hcert : dir'.read certFileName = dir.read certFileName)
      (hkey : dir'.read keyFileName = dir.read keyFileName) : Call digest dir io o dir'
  | certOnly {o : Outcome CertPair} {dir' : Dir} (gen : Generated Matches)
      (hload : load digest dir io = .ok none) (hno : ∀ pair, o ≠ .ok pair)
      (hcert : dir'.read certFileName = some gen.cert)
      (hkey : dir'.read keyFileName = dir.read keyFileName) : Call digest dir io o dir'
  | both {o : Outcome CertPair} {dir' : Dir} (gen : Generated Matches)
      (hload : load digest dir io = .ok none)
      (hout : o = .ok ⟨gen.cert, gen.key, digest gen.cert⟩ ∨ o = .crashed)
      (hcert : dir'.read certFileName = some gen.cert)
      (hkey : dir'.read keyFileName = some gen.key) : Call digest dir io o dir'

/-- The one inversion of `loadOrGenerate`, with what is on disk after it. -/
theorem call_cases (digest : List UInt8 → Fingerprint) (dir : Dir) (io : CallIo Matches) :
    Call digest dir io (loadOrGenerate digest dir io).1 (loadOrGenerate digest dir io).2 := by
  unfold loadOrGenerate
  cases hload : load digest dir io with
  | crashed => exact .stopped nofun rfl rfl
  | err e => exact .stopped nofun rfl rfl
  | ok found =>
    cases found with
    | some pair => exact .loaded pair hload
    | none =>
      cases io.generateSelfSigned with
      | error msg => exact .stopped nofun rfl rfl
      | ok gen =>
        -- the certificate first
        have hcerts := @persistAtomic_cases dir io.cert gen.cert certFileName
        have hc : certFileName ≠ tmpName io.cert certFileName := tmpName_ne _ _ (.inl rfl)
        have hk : keyFileName ≠ tmpName io.cert certFileName := tmpName_ne _ _ (.inr rfl)
        dsimp only
        cases hcert : persistAtomic dir io.cert certFileName gen.cert with
        | mk r₁ dir₁ =>
          rw [hcert] at hcerts
          rcases hcerts with ⟨hno, hsame⟩ | ⟨hnoerr, hnew⟩
          · cases r₁ with
            | ok u => exact absurd rfl hno
            | err e => exact .stopped nofun (hsame _ hc) (hsame _ hk)
            | crashed => exact .stopped nofun (hsame _ hc) (hsame _ hk)
          · have hcert₁ : dir₁.read certFileName = some gen.cert := by rw [hnew _ hc, if_pos rfl]
            have hkey₁ : dir₁.read keyFileName = dir.read keyFileName := by
              rw [hnew _ hk, if_neg (by decide)]
            cases r₁ with
            | err e => exact absurd rfl (hnoerr e)
            | crashed => exact .certOnly gen hload nofun hcert₁ hkey₁
            | ok u =>
              -- then the key
              have hkeys := @persistAtomic_cases dir₁ io.key gen.key keyFileName
              have hc' : certFileName ≠ tmpName io.key keyFileName := tmpName_ne _ _ (.inl rfl)
              have hk' : keyFileName ≠ tmpName io.key keyFileName := tmpName_ne _ _ (.inr rfl)
              dsimp only
              cases hkey : persistAtomic dir₁ io.key keyFileName gen.key with
              | mk r₂ dir₂ =>
                rw [hkey] at hkeys
                rcases hkeys with ⟨hno, hsame⟩ | ⟨hnoerr, hnew'⟩
                · have hcert₂ := (hsame _ hc').trans hcert₁
                  have hkey₂ := (hsame _ hk').trans hkey₁
                  cases r₂ with
                  | ok u => exact absurd rfl hno
                  | err e => exact .certOnly gen hload nofun hcert₂ hkey₂
                  | crashed => exact .certOnly gen hload nofun hcert₂ hkey₂
                · have hcert₂ : dir₂.read certFileName = some gen.cert := by
                    rw [hnew' _ hc', if_neg (by decide), hcert₁]
                  have hkey₂ : dir₂.read keyFileName = some gen.key := by
                    rw [hnew' _ hk', if_pos rfl]
                  cases r₂ with
                  | err e => exact absurd rfl (hnoerr e)
                  | crashed => exact .both gen hload (.inr rfl) hcert₂ hkey₂
                  | ok u => exact .both gen hload (.inl rfl) hcert₂ hkey₂

end Calls

/-! ## Calls one after another -/

section Lives

variable {Matches : List UInt8 → List UInt8 → Prop} {digest : List UInt8 → Fingerprint} {dir : Dir}
  {s : Life}

/-- The directory, and the pairs that calls have returned so far. -/
structure Life where
  dir : Dir
  returned : List CertPair

/-- One call, in a process of its own if the one before it has died. -/
def Life.step (digest : List UInt8 → Fingerprint) (s : Life) (io : CallIo Matches) : Life :=
  { dir := (loadOrGenerate digest s.dir io).2
    returned := s.returned ++ (loadOrGenerate digest s.dir io).1.handed }

/-- Two complete files belong together. -/
def Consistent (Matches : List UInt8 → List UInt8 → Prop) (dir : Dir) : Prop :=
  ∀ pair, Holds dir pair → Matches pair.certDer pair.keyDerPkcs8

/-- What a call returns is a matching pair with its fingerprint, and the pair
    every call before it has returned. -/
structure Sound (digest : List UInt8 → Fingerprint) (s : Life) (io : CallIo Matches) : Prop where
  pair : ∀ pair, (loadOrGenerate digest s.dir io).1 = .ok pair →
    Matches pair.certDer pair.keyDerPkcs8 ∧ pair.fingerprintSha256 = digest pair.certDer
  same : ∀ pair, (loadOrGenerate digest s.dir io).1 = .ok pair →
    ∀ earlier ∈ s.returned, earlier = pair

/-- The call does not go on to generate while a complete key is in place. -/
def SparesKey (digest : List UInt8 → Fingerprint) (s : Life) (io : CallIo Matches) : Prop :=
  load digest s.dir io = .ok none → keyComplete s.dir = false

/-- Complete files match, and what was returned is still what is on disk. -/
structure Settled (Matches : List UInt8 → List UInt8 → Prop) (digest : List UInt8 → Fingerprint)
    (s : Life) : Prop where
  consistent : Consistent Matches s.dir
  returned : ∀ pair ∈ s.returned, Holds s.dir pair ∧
    pair.fingerprintSha256 = digest pair.certDer

theorem Holds.of_reads {dir' : Dir} {pair : CertPair} (h : Holds dir pair)
    (hcert : dir'.read certFileName = dir.read certFileName)
    (hkey : dir'.read keyFileName = dir.read keyFileName) : Holds dir' pair :=
  ⟨hcert.trans h.cert, hkey.trans h.key, h.cert_ne, h.key_ne⟩

theorem Holds.unique {p q : CertPair} (hp : Holds dir p) (hq : Holds dir q)
    (hfp : p.fingerprintSha256 = digest p.certDer) (hfq : q.fingerprintSha256 = digest q.certDer) :
    p = q := by
  have hcert : p.certDer = q.certDer := Option.some.inj (hp.cert.symm.trans hq.cert)
  have hkey : p.keyDerPkcs8 = q.keyDerPkcs8 := Option.some.inj (hp.key.symm.trans hq.key)
  have hfinger : p.fingerprintSha256 = q.fingerprintSha256 := by rw [hfp, hfq, hcert]
  cases p
  cases q
  simp_all

/-- Without a complete key nothing has been returned yet. -/
theorem Settled.returned_nil (h : Settled Matches digest s)
    (hkey : keyComplete s.dir = false) : s.returned = [] := by
  rw [List.eq_nil_iff_forall_not_mem]
  intro pair hpair
  rw [(h.returned pair hpair).1.keyComplete] at hkey
  cases hkey

theorem consistent_generated (gen : Generated Matches)
    (hcert : dir.read certFileName = some gen.cert) (hkey : dir.read keyFileName = some gen.key) :
    Consistent Matches dir := by
  intro pair h
  have hc : gen.cert = pair.certDer := Option.some.inj (hcert.symm.trans h.cert)
  have hk : gen.key = pair.keyDerPkcs8 := Option.some.inj (hkey.symm.trans h.key)
  rw [← hc, ← hk]
  exact gen.pair

/-- A call that spares a complete key keeps files and identity settled. -/
theorem Settled.step (h : Settled Matches digest s) (io : CallIo Matches)
    (hspares : SparesKey digest s io) : Settled Matches digest (s.step digest io) := by
  have hcall := call_cases digest s.dir io
  unfold Life.step
  generalize loadOrGenerate digest s.dir io = result at hcall ⊢
  obtain ⟨o, dir'⟩ := result
  dsimp only at hcall ⊢
  have hnothing : (∀ pair, o ≠ .ok pair) → o.handed = [] := by
    intro hno
    cases o with
    | ok pair => exact absurd rfl (hno pair)
    | err e => rfl
    | crashed => rfl
  cases hcall with
  | loaded pair hload =>
    obtain ⟨hholds, hfp⟩ := load_some hload
    refine ⟨h.consistent, fun p hp => ?_⟩
    rcases List.mem_append.mp hp with hold | hnew
    · exact h.returned p hold
    · rw [List.mem_singleton.mp hnew]
      exact ⟨hholds, hfp⟩
  | stopped hno hcert hkey =>
    rw [hnothing hno, List.append_nil]
    exact ⟨fun pair hp => h.consistent pair (hp.of_reads hcert.symm hkey.symm),
      fun pair hp => ⟨(h.returned pair hp).1.of_reads hcert hkey, (h.returned pair hp).2⟩⟩
  | certOnly gen hload hno hcert hkey =>
    -- the new certificate stands beside a key that is missing or empty
    have hnokey := hspares hload
    rw [hnothing hno, h.returned_nil hnokey]
    refine ⟨fun pair hp => ?_, nofun⟩
    have hcomplete := hp.keyComplete
    rw [keyComplete, hkey, ← keyComplete, hnokey] at hcomplete
    cases hcomplete
  | both gen hload hout hcert hkey =>
    have hnone := h.returned_nil (hspares hload)
    refine ⟨consistent_generated gen hcert hkey, fun pair hp => ?_⟩
    rw [hnone] at hp
    rcases hout with rfl | rfl
    · rw [List.mem_singleton.mp hp]
      exact ⟨⟨hcert, hkey, gen.cert_ne, gen.key_ne⟩, rfl⟩
    · cases hp

theorem Settled.sound (h : Settled Matches digest s) (io : CallIo Matches)
    (hspares : SparesKey digest s io) : Sound digest s io := by
  have hcall := call_cases digest s.dir io
  constructor
  · intro pair hok
    rw [hok] at hcall
    generalize (loadOrGenerate digest s.dir io).2 = dir' at hcall
    cases hcall with
    | loaded pair hload => exact ⟨h.consistent pair (load_some hload).1, (load_some hload).2⟩
    | stopped hno => exact absurd rfl (hno pair)
    | certOnly gen hload hno => exact absurd rfl (hno pair)
    | both gen hload hout hcert hkey =>
      rcases hout with hout | hout
      · cases hout
        exact ⟨gen.pair, rfl⟩
      · cases hout
  · intro pair hok earlier hearlier
    rw [hok] at hcall
    generalize (loadOrGenerate digest s.dir io).2 = dir' at hcall
    obtain ⟨hheld, hfp⟩ := h.returned earlier hearlier
    cases hcall with
    | loaded pair hload => exact hheld.unique (load_some hload).1 hfp (load_some hload).2
    | stopped hno => exact absurd rfl (hno pair)
    | certOnly gen hload hno => exact absurd rfl (hno pair)
    | both gen hload hout hcert hkey =>
      -- a pair is generated only where none was returned before
      rw [h.returned_nil (hspares hload)] at hearlier
      cases hearlier

instance (s : Life) (io : CallIo Matches) : Decidable (SparesKey digest s io) :=
  inferInstanceAs (Decidable (load digest s.dir io = .ok none → keyComplete s.dir = false))

/-- **One identity.** From every directory whose complete files match, whatever
    fails and wherever calls die: as long as no call goes on to generate while a
    complete key is in place, every pair that is returned matches and is the
    same pair. -/
theorem identity_sound (digest : List UInt8 → Fingerprint) (dir : Dir)
    (hstart : Consistent Matches dir) (calls : List (CallIo Matches))
    (hspares : AllSteps (Life.step digest) (SparesKey digest) ⟨dir, []⟩ calls) :
    AllSteps (Life.step digest) (Sound digest) ⟨dir, []⟩ calls := by
  have hsettled : Settled Matches digest ⟨dir, []⟩ := ⟨hstart, nofun⟩
  exact allSteps_of_invariant hsettled (fun _ io h hs => h.step io hs)
    (fun _ io h hs => h.sound io hs) hspares

end Lives

/-! ## Two ways to lose the identity -/

section Examples

/-- For the runs below: the key of a certificate has its bytes complemented. -/
abbrev complements (cert key : List UInt8) : Prop := key = cert.map fun b => 255 - b

/-- The first 32 bytes, which tell the certificates of these runs apart. -/
def leading (der : List UInt8) : Fingerprint := Vector.ofFn fun i => der.getD i.val 0

def smooth (nonce : Nat) : PersistIo where
  pid := 1
  nonce := nonce
  create := .works
  write := .works
  written := 0
  sync := .works
  rename := .works
  remove := .works

/-- A call in which everything works; it generates the pair of `seed`. -/
def plainCall (seed : UInt8) : CallIo complements where
  readCert := .works
  readKey := .works
  generateSelfSigned := .ok ⟨[seed], [255 - seed], by simp, by simp, rfl⟩
  cert := smooth 1
  key := smooth 2

/-- The process dies between the two renames. -/
def dyingCall (seed : UInt8) : CallIo complements :=
  { plainCall seed with key := { smooth 2 with create := .crashes false } }

/-- The certificate is there but cannot be read. -/
def unreadableCall (seed : UInt8) : CallIo complements :=
  { plainCall seed with readCert := .fails "Input/output error (os error 5)" }

/-- A start on an empty directory that dies halfway, then two calls that work. -/
theorem identity_sound_halfway :
    AllSteps (Life.step leading) (Sound leading) ⟨.empty, []⟩
      [dyingCall 1, plainCall 2, plainCall 3] :=
  identity_sound leading .empty (fun _ h => nomatch h.cert) _ (by decide)

/-- A complete key without a certificate. -/
def orphanKey : Dir := Files.empty.put keyFileName [248]

def healthy : Dir := orphanKey.put certFileName [7]

theorem orphanKey_consistent : Consistent complements orphanKey := by
  intro pair h
  have hcert := h.cert
  rw [orphanKey, Files.read_put, if_neg (by decide)] at hcert
  cases hcert

theorem healthy_consistent : Consistent complements healthy := by
  intro pair h
  have hcert : [7] = pair.certDer := Option.some.inj (Eq.trans (by decide) h.cert)
  have hkey : [248] = pair.keyDerPkcs8 := Option.some.inj (Eq.trans (by decide) h.key)
  rw [complements, ← hcert, ← hkey]
  rfl

/-- From the orphan key, the dying call puts a certificate of its own beside the
    old key and the next call returns the two.  From complete files, a call that
    cannot read the certificate returns a pair of its own. -/
theorem identity_lost :
    (Consistent complements orphanKey ∧ ¬ AllSteps (Life.step leading) (Sound leading)
      ⟨orphanKey, []⟩ [dyingCall 1, plainCall 2]) ∧
    (Consistent complements healthy ∧ ¬ AllSteps (Life.step leading) (Sound leading)
      ⟨healthy, []⟩ [plainCall 1, unreadableCall 2]) := by
  refine ⟨⟨orphanKey_consistent, fun h => ?_⟩, healthy_consistent, fun h => ?_⟩
  · have hpair := (h.2.1.pair ⟨[1], [248], leading [1]⟩ (by decide)).1
    revert hpair
    decide
  · have hsame := h.2.1.same ⟨[2], [253], leading [2]⟩ (by decide) ⟨[7], [248], leading [7]⟩
      (by decide)
    revert hsame
    decide

end Examples

end Handfast.Protocol.Tls
