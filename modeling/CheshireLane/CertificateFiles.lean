import CheshireLane.Library.Transitions

/-!
# The certificate files across starts

Every start of the server runs `certificates::ensure`: it generates a CA pair if a
file of the pair is missing, and a TLS pair signed by it if the CA is new or a TLS
file is missing. Any write may fail and abort the run, and files may be deleted
between runs. That the CA is new is known to the running process only; a later run
looks at which files exist and nothing else.

rcgen is a parameter: whether it builds an issuer from a certificate and a key.
Of a file only what it stands for is modelled, and a key pair is the number under
which it was generated, so fresh key pairs are distinct. A failure of the key
generator or of a read leaves the same files as a write that fails before it
begins.
-/

namespace CheshireLane

open Transitions

/-- Keys are told apart by numbers, one for each that was generated. -/
abbrev KeyPair := Nat

/-- Of a CA certificate only the key in it matters here. -/
structure CaCertificate where
  key : KeyPair

/-- The signer is the key the certificate was signed with. -/
structure TlsCertificate where
  key : KeyPair
  signer : KeyPair

/-- What stands in a file: all that was to be written, or what a failed write left. -/
inductive Contents (α : Type) where
  | whole (value : α)
  | damaged

/-- The file of a certificate and that of its key, if they exist. -/
structure PairFiles (α : Type) where
  cert : Option (Contents α)
  key : Option (Contents KeyPair)

/-- The four files that `ensure` looks after. -/
structure Files where
  ca : PairFiles CaCertificate
  tls : PairFiles TlsCertificate

/-- How `fs::write` ends: it succeeds, it fails before the file is opened, or it
fails after the file was truncated. -/
inductive Write where
  | done
  | untouched
  | damaged
  deriving DecidableEq

/-- The writes of one pair. The permissions of a key are restricted behind its
write, which may fail as well. -/
structure PairWrite where
  cert : Write
  key : Write
  restricted : Bool

/-- The writes of one run, as far as it gets. -/
structure Writes where
  ca : PairWrite
  tls : PairWrite

/-- `Issuer::from_ca_cert_pem`: does it accept a certificate for the first key
together with the second key? A certificate's own key is accepted. -/
structure Rcgen where
  accepts : KeyPair → KeyPair → Bool
  matching : ∀ key, accepts key key = true

/-- `fs::write`. -/
def Write.apply {α : Type} (write : Write) (file : Option (Contents α)) (value : α) :
    Option (Contents α) :=
  match write with
  | .done => some (.whole value)
  | .untouched => file
  | .damaged => some .damaged

namespace PairFiles

variable {α : Type}

/-- `cert_path.is_file() && key_path.is_file()`. -/
def present (files : PairFiles α) : Bool := files.cert.isSome && files.key.isSome

/-- `write_public` of a certificate and `write_private` of its key. -/
def write (files : PairFiles α) (writes : PairWrite) (cert : α) (key : KeyPair) :
    PairFiles α × Bool :=
  let files := { files with cert := writes.cert.apply files.cert cert }
  if writes.cert ≠ .done then (files, false)
  else
    let files := { files with key := writes.key.apply files.key key }
    (files, decide (writes.key = .done) && writes.restricted)

end PairFiles

/-- `ensure_ca`: whether a CA was generated, unless the run was aborted. -/
def ensureCa (files : Files) (key : KeyPair) (writes : PairWrite) : Files × Option Bool :=
  if files.ca.present then (files, some false)
  else
    let (ca, written) := files.ca.write writes ⟨key⟩ key
    ({ files with ca }, if written then some true else none)

/-- The key with which the CA on disk signs, if rcgen can read it. -/
def issuer (rcgen : Rcgen) (ca : PairFiles CaCertificate) : Option KeyPair :=
  match ca.cert, ca.key with
  | some (.whole cert), some (.whole key) => if rcgen.accepts cert.key key then some key else none
  | _, _ => none

/-- `ensure_tls`: whether it returned without an error. A pair that is present is kept unless it is
to be renewed, and a new one is signed by the CA that the files hold. -/
def ensureTls (rcgen : Rcgen) (files : Files) (key : KeyPair) (writes : PairWrite) (force : Bool) :
    Files × Bool :=
  if !force && files.tls.present then (files, true)
  else
    match issuer rcgen files.ca with
    | none => (files, false)
    | some signer =>
      let (tls, written) := files.tls.write writes ⟨key, signer⟩ key
      ({ files with tls }, written)

/-- `ensure`. Two key pairs are at hand, whether or not they are needed. -/
def ensure (rcgen : Rcgen) (files : Files) (key : KeyPair) (writes : Writes) : Files × Bool :=
  match ensureCa files key writes.ca with
  | (files, none) => (files, false)
  | (files, some generated) => ensureTls rcgen files (key + 1) writes.tls generated

/-- The file that somebody deletes. -/
inductive CertificatePath where
  | caCert
  | caKey
  | tlsCert
  | tlsKey

/-- One file is removed, the others stay. -/
def Files.delete (files : Files) : CertificatePath → Files
  | .caCert => { files with ca := { files.ca with cert := none } }
  | .caKey => { files with ca := { files.ca with key := none } }
  | .tlsCert => { files with tls := { files.tls with cert := none } }
  | .tlsKey => { files with tls := { files.tls with key := none } }

/-- The files, and the number of key pairs generated so far. -/
structure CertificateState where
  files : Files
  generated : Nat

/-- The server is started, or the operator deletes a file. -/
inductive CertificateEvent where
  | start (writes : Writes)
  | delete (path : CertificatePath)

/-- What a step shows: whether a start was successful, or that a file is gone. -/
inductive CertificateLabel where
  | returned (ok : Bool)
  | deleted

/-- Starts of the server and deletions of files, in any order. -/
def certificates (rcgen : Rcgen) : Machine CertificateState CertificateEvent CertificateLabel where
  step state
    | .start writes =>
      let (files, ok) := ensure rcgen state.files state.generated writes
      some (⟨files, state.generated + 2⟩, .returned ok)
    | .delete path => some ({ state with files := state.files.delete path }, .deleted)

/-- No file exists. -/
def CertificateState.empty : CertificateState := ⟨⟨⟨none, none⟩, ⟨none, none⟩⟩, 0⟩

/-- Both keys are those of their certificates, and the CA on disk has signed the
TLS certificate. -/
def Consistent (files : Files) : Prop :=
  ∃ caKey tlsKey, files = ⟨⟨some (.whole ⟨caKey⟩), some (.whole caKey)⟩,
    ⟨some (.whole ⟨tlsKey, caKey⟩), some (.whole tlsKey)⟩⟩

/-- The CA key on disk is the key of the CA certificate. -/
def CaMatches (files : Files) : Prop :=
  ∃ key, files.ca = ⟨some (.whole ⟨key⟩), some (.whole key)⟩

/-- The write leaves both files on disk, but not both of the new pair: the new
certificate stands in front of the old key, or one of the two is cut short. -/
def Tears {α : Type} (writes : PairWrite) (files : PairFiles α) : Prop :=
  match writes.cert, writes.key with
  | .untouched, _ => False
  | .damaged, _ => files.key.isSome = true
  | .done, .untouched => files.key.isSome = true
  | .done, .damaged => True
  | .done, .done => False

/-- Both files of the pair are written. -/
def PairWrite.Complete (writes : PairWrite) : Prop := writes.cert = .done ∧ writes.key = .done

/-- The run leaves nothing that a later run would take for a finished pair: it
tears no pair, and if both files of an older TLS pair are on disk, a new CA is
followed by a new TLS pair. -/
def Benign (state : CertificateState) : CertificateEvent → Prop
  | .delete _ => True
  | .start writes =>
    if state.files.ca.present then
      state.files.tls.present = true ∨ ¬ Tears writes.tls state.files.tls
    else
      ¬ Tears writes.ca state.files.ca ∧ (writes.ca.Complete →
        (state.files.tls.present = true → writes.ca.restricted = true ∧ writes.tls.Complete) ∧
          (writes.ca.restricted = true → ¬ Tears writes.tls state.files.tls))

/-- Deleting a CA file makes the next run generate everything; deleting a TLS file
makes it generate a TLS pair, which helps if the CA pair is whole. -/
def Restores (state : CertificateState) : CertificateEvent → Prop
  | .delete .caCert => True
  | .delete .caKey => True
  | .delete .tlsCert => CaMatches state.files
  | .delete .tlsKey => CaMatches state.files
  | .start _ => False

/-- What a run relies on: the files it does not write again fit together. -/
structure Sound (files : Files) : Prop where
  ca : files.ca.present = true → CaMatches files
  tls : files.ca.present = true → files.tls.present = true → Consistent files

/-- Without a CA pair everything will be generated. -/
theorem sound_without_ca {files : Files} (absent : files.ca.present ≠ true) : Sound files :=
  ⟨fun present => absurd present absent, fun present => absurd present absent⟩

/-- Without a TLS pair only the CA pair matters. -/
theorem sound_without_tls {files : Files} (matching : files.ca.present = true → CaMatches files)
    (absent : files.tls.present ≠ true) : Sound files :=
  ⟨matching, fun _ present => absurd present absent⟩

/-- The keys on disk were generated before. -/
structure Generated (state : CertificateState) : Prop where
  caKey : ∀ key, state.files.ca.key = some (.whole key) → key < state.generated
  tlsKey : ∀ key, state.files.tls.key = some (.whole key) → key < state.generated
  signer : ∀ cert, state.files.tls.cert = some (.whole cert) → cert.signer < state.generated

namespace PairFiles

variable {α : Type}

/-- How the writes of a pair can end. A pair is complete, left as it was, still missing, or
torn: present, but with files that do not belong together. -/
inductive Written (files : PairFiles α) (writes : PairWrite) (cert : α) (key : KeyPair) :
    PairFiles α × Bool → Prop
  | complete (complete : writes.Complete) (whole : ¬ Tears writes files) :
      Written files writes cert key (⟨some (.whole cert), some (.whole key)⟩, writes.restricted)
  | untouched (unfinished : ¬ writes.Complete) (whole : ¬ Tears writes files) :
      Written files writes cert key (files, false)
  | missing (left : PairFiles α) (unfinished : ¬ writes.Complete) (whole : ¬ Tears writes files)
      (absent : files.key = none) (none : left.key = none) :
      Written files writes cert key (left, false)
  | torn (left : PairFiles α) (torn : Tears writes files) (present : left.present = true)
      (unfit : left.cert = some .damaged ∨ left.key = some .damaged ∨
        left.cert = some (.whole cert) ∧ left.key = files.key) :
      Written files writes cert key (left, false)

/-- What the writing of a pair can leave: both files, the old ones, no key, or a pair that is torn
between old and new. One case for each write that can fail. -/
theorem write_cases (files : PairFiles α) (writes : PairWrite) (cert : α) (key : KeyPair) :
    Written files writes cert key (files.write writes cert key) := by
  obtain ⟨certWrite, keyWrite, restricted⟩ := writes
  obtain ⟨oldCert, oldKey⟩ := files
  cases certWrite with
  | untouched => exact .untouched (by simp [PairWrite.Complete]) (by simp [Tears])
  | damaged =>
    cases oldKey with
    | none => exact .missing _ (by simp [PairWrite.Complete]) (by simp [Tears]) rfl rfl
    | some old => exact .torn _ rfl rfl (.inl rfl)
  | done =>
    cases keyWrite with
    | untouched =>
      cases oldKey with
      | none => exact .missing _ (by simp [PairWrite.Complete]) (by simp [Tears]) rfl rfl
      | some old => exact .torn _ rfl rfl (.inr (.inr ⟨rfl, rfl⟩))
    | damaged => exact .torn _ trivial rfl (.inr (.inl rfl))
    | done => exact .complete ⟨rfl, rfl⟩ id

/-- Writes that succeed leave the new pair. -/
theorem write_succeeded {files : PairFiles α} {writes : PairWrite} {cert : α} {key : KeyPair}
    (succeeded : (files.write writes cert key).2 = true) :
    (files.write writes cert key).1 = ⟨some (.whole cert), some (.whole key)⟩ := by
  have written := files.write_cases writes cert key
  generalize files.write writes cert key = result at written succeeded ⊢
  cases written with
  | complete => rfl
  | untouched => cases succeeded
  | missing => cases succeeded
  | torn => cases succeeded

/-- What a file stands for was there before or is new. -/
theorem write_origin (files : PairFiles α) (writes : PairWrite) (cert : α) (key : KeyPair) :
    (∀ found, (files.write writes cert key).1.cert = some (.whole found) →
        files.cert = some (.whole found) ∨ found = cert) ∧
      ∀ found, (files.write writes cert key).1.key = some (.whole found) →
        files.key = some (.whole found) ∨ found = key := by
  obtain ⟨certWrite, keyWrite, restricted⟩ := writes
  cases certWrite <;> cases keyWrite <;> simp +contextual [write, Write.apply, eq_comm]

/-- Without a key file a pair is not present. -/
theorem absent_key {files : PairFiles α} (absent : files.key = none) : files.present = false := by
  simp [present, absent]

end PairFiles

/-- A matching CA on disk signs with its own key. -/
theorem issuer_matching (rcgen : Rcgen) (key : KeyPair) :
    issuer rcgen ⟨some (.whole ⟨key⟩), some (.whole key)⟩ = some key := by
  simp [issuer, rcgen.matching]

/-- The signer's key is on disk. -/
theorem issuer_key {rcgen : Rcgen} {ca : PairFiles CaCertificate} {signer : KeyPair}
    (found : issuer rcgen ca = some signer) : ca.key = some (.whole signer) := by
  unfold issuer at found
  split at found
  · next key _ same =>
    split at found
    · rw [same, Option.some.inj found]
    · cases found
  · cases found

/-- A TLS pair that was not torn, beside a matching CA. -/
theorem sound_tls_write (files : Files) (writes : PairWrite) (caKey key : KeyPair)
    (matching : files.ca = ⟨some (.whole ⟨caKey⟩), some (.whole caKey)⟩)
    (whole : ¬ Tears writes files.tls) (renewed : files.tls.present = true → writes.Complete) :
    Sound { files with tls := (files.tls.write writes ⟨key, caKey⟩ key).1 } := by
  refine ⟨fun _ => ⟨caKey, matching⟩, fun _ present => ?_⟩
  have written := files.tls.write_cases writes ⟨key, caKey⟩ key
  generalize files.tls.write writes ⟨key, caKey⟩ key = result at written present ⊢
  cases written with
  | complete complete _ => exact ⟨caKey, key, by simp [matching]⟩
  | untouched unfinished _ => exact absurd (renewed present) unfinished
  | missing left _ _ _ none =>
    rw [PairFiles.absent_key none] at present
    cases present
  | torn left torn => exact absurd torn whole

/-- A torn TLS pair beside a present CA. What was written is cut off, or it is a new certificate
over an old key, which a fresh key differs from. -/
theorem torn_tls_write (files : Files) (writes : PairWrite) (signer key : KeyPair)
    (ca : files.ca.present = true) (torn : Tears writes files.tls)
    (fresh : ∀ old, files.tls.key = some (.whole old) → old ≠ key) :
    ¬ Sound { files with tls := (files.tls.write writes ⟨key, signer⟩ key).1 } := by
  have written := files.tls.write_cases writes ⟨key, signer⟩ key
  generalize files.tls.write writes ⟨key, signer⟩ key = result at written ⊢
  cases written with
  | complete _ whole => exact absurd torn whole
  | untouched _ whole => exact absurd torn whole
  | missing left _ whole => exact absurd torn whole
  | torn left _ present unfit =>
    intro sound
    obtain ⟨caKey, tlsKey, same⟩ := sound.tls ca present
    obtain ⟨_, rfl⟩ := Files.mk.inj same
    rcases unfit with cut | cut | ⟨cert, old⟩
    · cases cut
    · cases cut
    · cases cert
      exact fresh key old.symm rfl

/-- A TLS pair beside a CA whose key did not sign it. -/
theorem stale_tls_pair {files : Files} (caKey : KeyPair)
    (ca : files.ca = ⟨some (.whole ⟨caKey⟩), some (.whole caKey)⟩)
    (present : files.tls.present = true)
    (stale : ∀ cert, files.tls.cert = some (.whole cert) → cert.signer ≠ caKey) : ¬ Sound files := by
  intro sound
  obtain ⟨key, tlsKey, rfl⟩ := sound.tls (by rw [ca]; rfl) present
  cases ca
  exact stale ⟨tlsKey, caKey⟩ rfl rfl

/-- A stale TLS pair that is not renewed. -/
theorem stale_tls_write (files : Files) (writes : PairWrite) (caKey key : KeyPair)
    (ca : files.ca = ⟨some (.whole ⟨caKey⟩), some (.whole caKey)⟩)
    (present : files.tls.present = true) (unfinished : ¬ writes.Complete)
    (whole : ¬ Tears writes files.tls)
    (stale : ∀ cert, files.tls.cert = some (.whole cert) → cert.signer ≠ caKey) :
    ¬ Sound { files with tls := (files.tls.write writes ⟨key, caKey⟩ key).1 } := by
  have written := files.tls.write_cases writes ⟨key, caKey⟩ key
  generalize files.tls.write writes ⟨key, caKey⟩ key = result at written ⊢
  cases written with
  | complete complete => exact absurd complete unfinished
  | untouched => exact stale_tls_pair caKey ca present stale
  | missing left _ _ none =>
    rw [PairFiles.absent_key none] at present
    cases present
  | torn left torn => exact absurd torn whole

/-- What `ensure_ca` leaves. A pair that is found is kept; a new one is written whole, with or
without its permissions set, or not at all, or it is torn. -/
inductive CaStep (files : Files) (key : KeyPair) (writes : PairWrite) : Files × Option Bool → Prop
  | reused (present : files.ca.present = true) : CaStep files key writes (files, some false)
  | generated (absent : files.ca.present = false) (complete : writes.Complete)
      (restricted : writes.restricted = true) (whole : ¬ Tears writes files.ca) :
      CaStep files key writes
        ({ files with ca := ⟨some (.whole ⟨key⟩), some (.whole key)⟩ }, some true)
  | unrestricted (absent : files.ca.present = false) (complete : writes.Complete)
      (unrestricted : writes.restricted = false) (whole : ¬ Tears writes files.ca) :
      CaStep files key writes ({ files with ca := ⟨some (.whole ⟨key⟩), some (.whole key)⟩ }, none)
  | unfinished (ca : PairFiles CaCertificate) (absent : files.ca.present = false)
      (unfinished : ¬ writes.Complete) (whole : ¬ Tears writes files.ca)
      (missing : ca.present = false) : CaStep files key writes ({ files with ca }, none)
  | torn (ca : PairFiles CaCertificate) (absent : files.ca.present = false)
      (torn : Tears writes files.ca) (present : ca.present = true)
      (unfit : ca.cert = some .damaged ∨ ca.key = some .damaged ∨
        ca.cert = some (.whole ⟨key⟩) ∧ ca.key = files.ca.key) :
      CaStep files key writes ({ files with ca }, none)

/-- What `ensure_ca` can do. It either finds both files, or generates a pair and writes it as far as
the writes succeed. -/
theorem ensure_ca_cases (files : Files) (key : KeyPair) (writes : PairWrite) :
    CaStep files key writes (ensureCa files key writes) := by
  unfold ensureCa
  by_cases present : files.ca.present = true
  · rw [if_pos present]
    exact .reused present
  · have absent := Bool.eq_false_iff.mpr present
    rw [if_neg present]
    have written := files.ca.write_cases writes ⟨key⟩ key
    generalize files.ca.write writes ⟨key⟩ key = result at written ⊢
    cases written with
    | complete complete whole =>
      cases restricted : writes.restricted with
      | true => exact .generated absent complete restricted whole
      | false => exact .unrestricted absent complete restricted whole
    | untouched unfinished whole => exact .unfinished files.ca absent unfinished whole absent
    | missing left unfinished whole _ none =>
      exact .unfinished left absent unfinished whole (PairFiles.absent_key none)
    | torn left torn present unfit => exact .torn left absent torn present unfit

/-- A run on sound files leaves sound files if it does no harm. One case for each
way `ensure_ca` ends, and behind it the TLS pair. -/
theorem ensure_sound (rcgen : Rcgen) (state : CertificateState) (writes : Writes)
    (sound : Sound state.files) (benign : Benign state (.start writes)) :
    Sound (ensure rcgen state.files state.generated writes).1 := by
  obtain ⟨files, generated⟩ := state
  simp only [Benign] at benign sound ⊢
  unfold ensure
  have step := ensure_ca_cases files generated writes.ca
  generalize ensureCa files generated writes.ca = result at step ⊢
  cases step with
  | reused present =>
    rw [if_pos present] at benign
    obtain ⟨caKey, matching⟩ := sound.ca present
    by_cases tls : files.tls.present = true
    · simpa [ensureTls, tls] using sound
    · have written := sound_tls_write files writes.tls caKey (generated + 1) matching
        (benign.resolve_left tls) (fun present => absurd present tls)
      simpa [ensureTls, tls, matching, issuer_matching] using written
  | generated absent complete restricted whole =>
    rw [if_neg (by simp [absent])] at benign
    obtain ⟨renewed, kept⟩ := benign.2 complete
    have written := sound_tls_write
      { files with ca := ⟨some (.whole ⟨generated⟩), some (.whole generated)⟩ } writes.tls generated
      (generated + 1) rfl (kept restricted) (fun present => (renewed present).2)
    simpa [ensureTls, issuer_matching] using written
  | unrestricted absent complete unrestricted whole =>
    rw [if_neg (by simp [absent])] at benign
    refine ⟨fun _ => ⟨generated, rfl⟩, fun _ present => ?_⟩
    have restricted := ((benign.2 complete).1 present).1
    rw [unrestricted] at restricted
    cases restricted
  | unfinished ca absent unfinished whole missing =>
    exact sound_without_ca (by simp [missing])
  | torn ca absent torn present unfit =>
    rw [if_neg (by simp [absent])] at benign
    exact absurd torn benign.1

/-- Unsound files have a CA pair on disk. -/
theorem unsound_present {files : Files} (unsound : ¬ Sound files) : files.ca.present = true :=
  not_not.mp fun absent => unsound (sound_without_ca absent)

/-- Unsound files with a matching CA have a TLS pair on disk. -/
theorem unsound_tls {files : Files} (unsound : ¬ Sound files) (matching : CaMatches files) :
    files.tls.present = true :=
  not_not.mp fun absent => unsound (sound_without_tls (fun _ => matching) absent)

/-- `ensure` when a CA pair is on disk. -/
theorem ensure_reused (rcgen : Rcgen) (files : Files) (key : KeyPair) (writes : Writes)
    (present : files.ca.present = true) :
    ensure rcgen files key writes = ensureTls rcgen files (key + 1) writes.tls false := by
  simp [ensure, ensureCa, present]

/-- A run never mends unsound files: it keeps the CA pair, and a TLS pair on disk. -/
theorem ensure_unsound (rcgen : Rcgen) (files : Files) (key : KeyPair) (writes : Writes)
    (unsound : ¬ Sound files) : ¬ Sound (ensure rcgen files key writes).1 := by
  have present := unsound_present unsound
  rw [ensure_reused rcgen files key writes present]
  unfold ensureTls
  by_cases tls : files.tls.present = true
  · simpa [tls] using unsound
  · have mismatched : ¬ CaMatches files := fun matching => tls (unsound_tls unsound matching)
    rw [if_neg (by simp [tls])]
    split
    · exact unsound
    · exact fun sound => mismatched (sound.ca present)

/-- A harmful run leaves unsound files. Old keys and signers differ from fresh ones, so nothing fits
together by accident. The cases are what the run did to the CA, and then whether its write of the
TLS pair was torn, missing or stale. -/
theorem ensure_harmful (rcgen : Rcgen) (state : CertificateState) (writes : Writes)
    (earlier : Generated state) (harmful : ¬ Benign state (.start writes)) :
    ¬ Sound (ensure rcgen state.files state.generated writes).1 := by
  obtain ⟨files, generated⟩ := state
  simp only [Benign] at harmful
  have oldTls : ∀ old, files.tls.key = some (.whole old) → old ≠ generated + 1 := by
    intro old found
    exact Nat.ne_of_lt (Nat.lt_succ_of_lt (earlier.tlsKey old found))
  have stale : ∀ cert, files.tls.cert = some (.whole cert) → cert.signer ≠ generated :=
    fun cert found => Nat.ne_of_lt (earlier.signer cert found)
  simp only
  unfold ensure
  have step := ensure_ca_cases files generated writes.ca
  generalize ensureCa files generated writes.ca = result at step ⊢
  cases step with
  | reused present =>
    rw [if_pos present] at harmful
    obtain ⟨tls, torn⟩ := not_or.mp harmful
    by_cases sound : Sound files
    · obtain ⟨caKey, matching⟩ := sound.ca present
      have written := torn_tls_write files writes.tls caKey (generated + 1) present
        (not_not.mp torn) oldTls
      simpa [ensureTls, tls, matching, issuer_matching] using written
    · have kept := ensure_unsound rcgen files generated writes sound
      rwa [ensure_reused rcgen files generated writes present] at kept
  | generated absent complete restricted whole =>
    rw [if_neg (by simp [absent])] at harmful
    simp only [ensureTls, Bool.not_true, Bool.false_and, Bool.false_eq_true, ↓reduceIte,
      issuer_matching]
    by_cases torn : Tears writes.tls files.tls
    · exact torn_tls_write { files with ca := ⟨some (.whole ⟨generated⟩), some (.whole generated)⟩ }
        writes.tls generated (generated + 1) rfl torn oldTls
    · have unrenewed : files.tls.present = true ∧ ¬ writes.tls.Complete := by
        by_contra fine
        refine harmful ⟨whole, fun _ => ⟨fun present => ⟨restricted, ?_⟩, fun _ => torn⟩⟩
        by_contra unfinished
        exact fine ⟨present, unfinished⟩
      exact stale_tls_write { files with ca := ⟨some (.whole ⟨generated⟩), some (.whole generated)⟩ }
        writes.tls generated (generated + 1) rfl unrenewed.1 unrenewed.2 torn stale
  | unrestricted absent complete unrestricted whole =>
    rw [if_neg (by simp [absent])] at harmful
    refine stale_tls_pair generated rfl ?_ stale
    by_contra missing
    exact harmful ⟨whole, fun _ => ⟨fun present => absurd present missing,
      fun restricted => by rw [unrestricted] at restricted; cases restricted⟩⟩
  | unfinished ca absent unfinished whole missing =>
    rw [if_neg (by simp [absent])] at harmful
    exact absurd ⟨whole, fun complete => absurd complete unfinished⟩ harmful
  | torn ca absent torn present unfit =>
    intro sound
    obtain ⟨key, same⟩ := sound.ca present
    simp only at same
    subst same
    rcases unfit with cut | cut | ⟨cert, old⟩
    · cases cut
    · cases cut
    · cases cert
      exact Nat.lt_irrefl _ (earlier.caKey generated old.symm)

/-- A run that returns without an error leaves consistent files exactly if it found sound ones. An
unsound pair stays as it is, so nothing consistent comes out of it; a sound one is reused, or
replaced as a whole. -/
theorem ensure_ok_iff (rcgen : Rcgen) (files after : Files) (key : KeyPair) (writes : Writes)
    (ok : ensure rcgen files key writes = (after, true)) : Consistent after ↔ Sound files := by
  constructor
  · intro consistent
    by_contra unsound
    have kept := ensure_unsound rcgen files key writes unsound
    rw [ok] at kept
    obtain ⟨caKey, tlsKey, rfl⟩ := consistent
    exact kept ⟨fun _ => ⟨caKey, rfl⟩, fun _ _ => ⟨caKey, tlsKey, rfl⟩⟩
  · intro sound
    unfold ensure at ok
    have step := ensure_ca_cases files key writes.ca
    generalize ensureCa files key writes.ca = result at step ok
    cases step with
    | reused present =>
      obtain ⟨caKey, matching⟩ := sound.ca present
      by_cases tls : files.tls.present = true
      · simp only [ensureTls, tls, Bool.not_false, Bool.and_self, ↓reduceIte, Prod.mk.injEq,
          and_true] at ok
        rw [← ok]
        exact sound.tls present tls
      · simp only [ensureTls, tls, Bool.not_false, Bool.and_false, Bool.false_eq_true, ↓reduceIte,
          matching, issuer_matching, Prod.mk.injEq] at ok
        obtain ⟨rfl, written⟩ := ok
        exact ⟨caKey, key + 1, by rw [PairFiles.write_succeeded written]⟩
    | generated absent complete restricted whole =>
      simp only [ensureTls, Bool.not_true, Bool.false_and, Bool.false_eq_true, ↓reduceIte,
        issuer_matching, Prod.mk.injEq] at ok
      obtain ⟨rfl, written⟩ := ok
      exact ⟨key, key + 1, by rw [PairFiles.write_succeeded written]⟩
    | unrestricted => cases ok
    | unfinished => cases ok
    | torn => cases ok

/-- A run on consistent files changes nothing. -/
theorem ensure_consistent (rcgen : Rcgen) (files : Files) (key : KeyPair) (writes : Writes)
    (consistent : Consistent files) : ensure rcgen files key writes = (files, true) := by
  obtain ⟨caKey, tlsKey, rfl⟩ := consistent
  rfl

/-- What `ensure_ca` leaves beside the TLS pair: old keys and the fresh one. -/
theorem ensure_ca_origin (files : Files) (key : KeyPair) (writes : PairWrite) :
    (ensureCa files key writes).1.tls = files.tls ∧
      ∀ found, (ensureCa files key writes).1.ca.key = some (.whole found) →
        files.ca.key = some (.whole found) ∨ found = key := by
  unfold ensureCa
  split
  · exact ⟨rfl, fun _ same => .inl same⟩
  · exact ⟨rfl, (files.ca.write_origin writes ⟨key⟩ key).2⟩

/-- What `ensure_tls` leaves beside the CA pair: what was there, the fresh key, and
a certificate signed with the CA key on disk. -/
theorem ensure_tls_origin (rcgen : Rcgen) (files : Files) (key : KeyPair) (writes : PairWrite)
    (force : Bool) :
    (ensureTls rcgen files key writes force).1.ca = files.ca ∧
      (∀ found, (ensureTls rcgen files key writes force).1.tls.key = some (.whole found) →
        files.tls.key = some (.whole found) ∨ found = key) ∧
      ∀ found, (ensureTls rcgen files key writes force).1.tls.cert = some (.whole found) →
        files.tls.cert = some (.whole found) ∨ files.ca.key = some (.whole found.signer) := by
  unfold ensureTls
  split
  · exact ⟨rfl, fun _ same => .inl same, fun _ same => .inl same⟩
  · split
    · exact ⟨rfl, fun _ same => .inl same, fun _ same => .inl same⟩
    · next signer found =>
      obtain ⟨certs, keys⟩ := files.tls.write_origin writes ⟨key, signer⟩ key
      refine ⟨rfl, keys, fun cert same => (certs cert same).imp_right ?_⟩
      rintro rfl
      exact issuer_key found

namespace Generated

variable {rcgen : Rcgen} {state next : CertificateState}

/-- Where there are no files, none can hold a key that was not generated. -/
theorem empty : Generated .empty := by
  constructor <;> simp [CertificateState.empty]

/-- A start writes no key but the two that it generates. So keys are fresh: whatever is found in a
file later was there before, or is one of the two. -/
theorem start (earlier : Generated state) (writes : Writes) :
    Generated ⟨(ensure rcgen state.files state.generated writes).1, state.generated + 2⟩ := by
  obtain ⟨tls, keys⟩ := ensure_ca_origin state.files state.generated writes.ca
  unfold ensure
  revert tls keys
  rcases ensureCa state.files state.generated writes.ca with ⟨files, _ | generated⟩
  · intro tls keys
    refine ⟨fun key found => ?_, fun key found => ?_, fun cert found => ?_⟩
    · rcases keys key found with old | rfl
      · exact Nat.lt_add_right 2 (earlier.caKey key old)
      · exact Nat.lt_add_of_pos_right (by decide)
    · exact Nat.lt_add_right 2 (earlier.tlsKey key (tls ▸ found))
    · exact Nat.lt_add_right 2 (earlier.signer cert (tls ▸ found))
  · intro tls keys
    obtain ⟨ca, tlsKeys, certs⟩ :=
      ensure_tls_origin rcgen files (state.generated + 1) writes.tls generated
    have caKeys : ∀ key, files.ca.key = some (.whole key) → key < state.generated + 2 := by
      intro key found
      rcases keys key found with old | rfl
      · exact Nat.lt_add_right 2 (earlier.caKey key old)
      · exact Nat.lt_add_of_pos_right (by decide)
    refine ⟨fun key found => caKeys key (ca ▸ found), fun key found => ?_, fun cert found => ?_⟩
    · rcases tlsKeys key found with old | rfl
      · exact Nat.lt_add_right 2 (earlier.tlsKey key (tls ▸ old))
      · exact Nat.lt_succ_self _
    · rcases certs cert found with old | signed
      · exact Nat.lt_add_right 2 (earlier.signer cert (tls ▸ old))
      · exact caKeys cert.signer signed

/-- A deletion brings no key back. -/
theorem delete (earlier : Generated state) (path : CertificatePath) :
    Generated { state with files := state.files.delete path } := by
  cases path <;> constructor <;>
    simp +contextual [Files.delete, earlier.caKey, earlier.tlsKey, earlier.signer]

/-- Every step keeps the invariant, so a number that was not generated is in no file. -/
theorem step {event : CertificateEvent} {label : CertificateLabel} (earlier : Generated state)
    (taken : (certificates rcgen).step state event = some (next, label)) : Generated next := by
  cases event with
  | start writes =>
    cases taken
    exact earlier.start writes
  | delete path =>
    cases taken
    exact earlier.delete path

end Generated

/-- Deleting keeps files sound: what is missing is generated again. -/
theorem delete_sound (files : Files) (path : CertificatePath) (sound : Sound files) :
    Sound (files.delete path) := by
  cases path with
  | caCert => exact sound_without_ca (by simp [Files.delete, PairFiles.present])
  | caKey => exact sound_without_ca (by simp [Files.delete, PairFiles.present])
  | tlsCert => exact sound_without_tls sound.ca (by simp [Files.delete, PairFiles.present])
  | tlsKey => exact sound_without_tls sound.ca (by simp [Files.delete, PairFiles.present])

/-- Restoring deletions leave sound files. -/
theorem delete_restores (state : CertificateState) (path : CertificatePath)
    (restores : Restores state (.delete path)) : Sound (state.files.delete path) := by
  cases path with
  | caCert => exact sound_without_ca (by simp [Files.delete, PairFiles.present])
  | caKey => exact sound_without_ca (by simp [Files.delete, PairFiles.present])
  | tlsCert =>
    exact sound_without_tls (fun _ => restores) (by simp [Files.delete, PairFiles.present])
  | tlsKey =>
    exact sound_without_tls (fun _ => restores) (by simp [Files.delete, PairFiles.present])

/-- Other deletions leave unsound files unsound: the CA pair stays as it is. -/
theorem delete_unsound (state : CertificateState) (path : CertificatePath)
    (unsound : ¬ Sound state.files) (idle : ¬ Restores state (.delete path)) :
    ¬ Sound (state.files.delete path) := by
  have present := unsound_present unsound
  cases path with
  | caCert => exact absurd trivial idle
  | caKey => exact absurd trivial idle
  | tlsCert => exact fun sound => idle (sound.ca present)
  | tlsKey => exact fun sound => idle (sound.ca present)

section steps

variable {rcgen : Rcgen} {state next : CertificateState} {event : CertificateEvent}
  {label : CertificateLabel}

/-- What does no harm keeps sound files sound. -/
theorem benign_step (sound : Sound state.files) (benign : Benign state event)
    (taken : (certificates rcgen).step state event = some (next, label)) : Sound next.files := by
  cases event with
  | start writes =>
    cases taken
    exact ensure_sound rcgen state writes sound benign
  | delete path =>
    cases taken
    exact delete_sound state.files path sound

/-- What restores leaves sound files. -/
theorem restoring_step (restores : Restores state event)
    (taken : (certificates rcgen).step state event = some (next, label)) : Sound next.files := by
  cases event with
  | start writes => exact absurd restores id
  | delete path =>
    cases taken
    exact delete_restores state path restores

/-- What does harm leaves unsound files. -/
theorem harmful_step (earlier : Generated state) (harmful : ¬ Benign state event)
    (taken : (certificates rcgen).step state event = some (next, label)) : ¬ Sound next.files := by
  cases event with
  | start writes =>
    cases taken
    exact ensure_harmful rcgen state writes earlier harmful
  | delete path => exact absurd trivial harmful

/-- What does not restore leaves unsound files unsound. -/
theorem unsound_step (unsound : ¬ Sound state.files) (idle : ¬ Restores state event)
    (taken : (certificates rcgen).step state event = some (next, label)) : ¬ Sound next.files := by
  cases event with
  | start writes =>
    cases taken
    exact ensure_unsound rcgen state.files state.generated writes unsound
  | delete path =>
    cases taken
    exact delete_unsound state path unsound idle

end steps

/-- The files behind a history are sound exactly if every harm was repaired. Both directions are the
rule for repaired runs: a harmful start breaks the files, an idle one leaves them broken, and a
restoring one mends them. -/
theorem sound_iff_repaired {rcgen : Rcgen} {events : List CertificateEvent}
    {last : CertificateState} {labels : List CertificateLabel}
    (ran : (certificates rcgen).run .empty events = some (last, labels)) :
    Sound last.files ↔ (certificates rcgen).Repaired Benign Restores .empty events := by
  have initial : Sound CertificateState.empty.files := sound_without_ca (by decide)
  constructor
  · intro sound
    by_contra unrepaired
    exact Machine.unrepaired_broken Benign Restores Generated (fun state => ¬ Sound state.files)
      (fun _ _ _ _ earlier taken => earlier.step taken)
      (fun _ _ _ _ earlier harmful taken => harmful_step earlier harmful taken)
      (fun _ _ _ _ unsound idle taken => unsound_step unsound idle taken)
      events _ last labels .empty unrepaired ran sound
  · intro repaired
    exact Machine.repaired_holds Benign Restores Generated (fun state => Sound state.files)
      (fun _ _ _ _ earlier taken => earlier.step taken)
      (fun _ _ _ _ _ sound benign taken => benign_step sound benign taken)
      (fun _ _ _ _ _ restores taken => restoring_step restores taken)
      events _ last labels .empty (.inl initial) repaired ran

/-- When the certificate files fit together. Take any history of starts and
deletions that begins without files, and a run behind it that returns without an
error. It leaves consistent files if no run of the history did harm; and it does
so exactly if every run that did harm has a restoring deletion behind it. A run
that finds consistent files changes none. -/
theorem certificates_consistent_iff (rcgen : Rcgen) (events : List CertificateEvent)
    (last : CertificateState) (labels : List CertificateLabel) (writes : Writes) (files : Files)
    (ran : (certificates rcgen).run .empty events = some (last, labels))
    (ok : ensure rcgen last.files last.generated writes = (files, true)) :
    ((certificates rcgen).Along Benign .empty events → Consistent files) ∧
      (Consistent files ↔ (certificates rcgen).Repaired Benign Restores .empty events) ∧
      (Consistent last.files → files = last.files) := by
  have consistent := ensure_ok_iff rcgen last.files files last.generated writes ok
  have repaired := consistent.trans (sound_iff_repaired ran)
  refine ⟨?_, repaired, ?_⟩
  · intro along
    exact repaired.mpr (Machine.harmless_repaired Benign Restores events _ along)
  · intro fits
    rw [ensure_consistent rcgen last.files last.generated writes fits] at ok
    exact (congrArg Prod.fst ok).symm

/-- The operator deletes the CA key, and the next run stops behind the new CA. It
does no harm if the TLS certificate was deleted as well. -/
theorem certificates_consistent_iff_tls_deleted :
    let rcgen : Rcgen := ⟨fun _ _ => true, fun _ => rfl⟩
    let writes : Writes := ⟨⟨.done, .done, true⟩, ⟨.done, .done, true⟩⟩
    let stopped : Writes := ⟨⟨.done, .done, true⟩, ⟨.untouched, .done, true⟩⟩
    let events : List CertificateEvent :=
      [.start writes, .delete .caKey, .delete .tlsCert, .start stopped]
    ∃ last labels files, (certificates rcgen).run .empty events = some (last, labels) ∧
      ensure rcgen last.files last.generated writes = (files, true) ∧ Consistent files := by
  intro rcgen writes stopped events
  refine ⟨_, _, _, rfl, rfl, ?_⟩
  refine (certificates_consistent_iff rcgen events _ _ writes _ rfl rfl).1 ?_
  refine ⟨by simp [Benign, Tears, CertificateState.empty, PairFiles.present, writes], ?_⟩
  rintro _ _ ⟨⟩
  refine ⟨trivial, ?_⟩
  rintro _ _ ⟨⟩
  refine ⟨trivial, ?_⟩
  rintro _ _ ⟨⟩
  exact ⟨⟨id, fun _ => ⟨fun present => (by cases present), fun _ => id⟩⟩, fun _ _ _ => trivial⟩

/-- A start, the CA key is deleted, and the next run stops behind the new CA. Then
a run returns without an error, and the TLS certificate is signed by the old CA. -/
theorem stale_tls_certificate :
    let rcgen : Rcgen := ⟨fun _ _ => true, fun _ => rfl⟩
    let writes : Writes := ⟨⟨.done, .done, true⟩, ⟨.done, .done, true⟩⟩
    let stopped : Writes := ⟨⟨.done, .done, true⟩, ⟨.untouched, .done, true⟩⟩
    let events : List CertificateEvent := [.start writes, .delete .caKey, .start stopped]
    ∃ last labels files, (certificates rcgen).run .empty events = some (last, labels) ∧
      ensure rcgen last.files last.generated writes = (files, true) ∧ ¬ Consistent files := by
  intro rcgen writes stopped events
  refine ⟨_, _, _, rfl, rfl, ?_⟩
  rintro ⟨caKey, tlsKey, same⟩
  obtain ⟨ca, tls⟩ := Files.mk.inj same
  cases ca
  cases tls

end CheshireLane
