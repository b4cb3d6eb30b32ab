import WalletCredentials.Proofs.Proof.Signing

/-!
# Private keys in one form

A key stands for a key pair only if it is written to the letter as the pair is. What else a key may
hold is listed here flaw by flaw, and a key is refused before it signs anything exactly if it has
one of these flaws.
-/

namespace WalletCredentials

namespace Jwk

open Ed25519

variable {key : Jwk}

/-- What keeps a key from being the private key of a key pair. -/
inductive IsFlawed (key : Jwk) : Prop
  /-- It holds no seed. -/
  | missing (h : key.d = none)
  /-- What it holds as its seed is not the text of a seed. -/
  | seed {d : String} (hd : key.d = some d) (h : Base64Url.IsSpoiled d)
  /-- What it holds as its public key is not the text of a public key. -/
  | publicKey (h : Base64Url.IsSpoiled key.x)
  /-- Its public key is not that of its seed. -/
  | otherSeed {pair : KeyPair} {other : PublicKey} (hd : key.d = some (Base64Url.encode pair.seed))
      (hx : key.x = Base64Url.encode other.bytes) (h : other ≠ pair.publicKey)

/-- A key pair is given by its seed. -/
theorem eq_of_seed_eq {pair pair' : KeyPair} (h : pair.seed = pair'.seed) : pair = pair' := by
  obtain ⟨seed, hlength⟩ := pair
  subst h
  rfl

/-- A public key is given by its bytes. -/
theorem eq_of_bytes_eq {key key' : PublicKey} (h : key.bytes = key'.bytes) : key = key' := by
  obtain ⟨bytes, hlength⟩ := key
  subst h
  rfl

/-- A flawed key is the private key of no key pair. -/
theorem IsFlawed.ne_ofKeyPair (hflawed : key.IsFlawed) (pair : KeyPair) : key ≠ ofKeyPair pair := by
  rintro rfl
  cases hflawed with
  | missing h => cases h
  | seed hd h =>
      rw [← Option.some.inj hd] at h
      exact Base64Url.isSpoiled_iff.mp h pair.seed pair.length_eq rfl
  | publicKey h =>
      exact Base64Url.isSpoiled_iff.mp h pair.publicKey.bytes pair.publicKey.length_eq rfl
  | @otherSeed pair' other hd hx h =>
      have hpair : pair = pair' := eq_of_seed_eq (Base64Url.encode_injective (Option.some.inj hd))
      subst hpair
      exact h (eq_of_bytes_eq (Base64Url.encode_injective hx).symm)

/-- A key whose parts are the texts of a seed and of the public key of that seed is the private key
of the pair. -/
theorem eq_ofKeyPair {pair : KeyPair} (hd : key.d = some (Base64Url.encode pair.seed))
    (hx : key.x = Base64Url.encode pair.publicKey.bytes) : key = ofKeyPair pair := by
  obtain ⟨x, d⟩ := key
  simp only at hd hx
  rw [hd, hx, ofKeyPair]

/-- A key is flawed exactly if it is the private key of no key pair. -/
theorem isFlawed_iff : key.IsFlawed ↔ ∀ pair, key ≠ ofKeyPair pair := by
  constructor
  · exact IsFlawed.ne_ofKeyPair
  · intro hnone
    cases hd : key.d with
    | none => exact .missing hd
    | some d =>
        by_cases hseed : Base64Url.IsSpoiled d
        · exact .seed hd hseed
        by_cases hpublic : Base64Url.IsSpoiled key.x
        · exact .publicKey hpublic
        -- Both parts are texts of 32 bytes, and so they cannot belong together.
        obtain ⟨seed, hlength, rfl⟩ := Base64Url.exists_bytes_of_not_isSpoiled hseed
        obtain ⟨bytes, hlength', hx⟩ := Base64Url.exists_bytes_of_not_isSpoiled hpublic
        let pair : KeyPair := ⟨seed, hlength⟩
        let other : PublicKey := ⟨bytes, hlength'⟩
        have hd : key.d = some (Base64Url.encode pair.seed) := hd
        have hx : key.x = Base64Url.encode other.bytes := hx
        have hother : other ≠ pair.publicKey := by
          intro heq
          rw [heq] at hx
          exact hnone pair (eq_ofKeyPair hd hx)
        exact .otherSeed hd hx hother

/-- Tells that a failure is that of an invalid key. -/
def IsInvalidKey (e : ToolkitError) : Prop := ∃ reason, e = .invalidKey reason

theorem failsOnly_partBytes (name text : String) : FailsOnly IsInvalidKey (partBytes name text) := by
  rw [partBytes]
  cases Base64Url.decode? text with
  | some bytes => exact .ok bytes
  | none => exact .error ⟨_, rfl⟩

theorem failsOnly_publicKey (key : Jwk) : FailsOnly IsInvalidKey key.publicKey :=
  (failsOnly_partBytes _ _).bind fun _ => .mapError fun _ _ => ⟨_, rfl⟩

theorem failsOnly_keyPair (key : Jwk) : FailsOnly IsInvalidKey key.keyPair := by
  rw [keyPair]
  cases key.d with
  | none => exact .error ⟨_, rfl⟩
  | some d =>
      refine (failsOnly_partBytes _ _).bind fun seed => ?_
      refine .bind (.mapError fun fault _ => ⟨_, rfl⟩) fun pair => ?_
      exact (failsOnly_publicKey key).bind fun found => .ite (.ok pair) (.error ⟨_, rfl⟩)

/-- A key that is refused is refused as an invalid key. -/
theorem keyPair_cases (key : Jwk) :
    (∃ pair, key.keyPair = .ok pair) ∨ ∃ reason, key.keyPair = .error (.invalidKey reason) := by
  cases hkey : key.keyPair with
  | ok pair => exact .inl ⟨pair, rfl⟩
  | error e =>
      obtain ⟨reason, rfl⟩ := failsOnly_keyPair key e hkey
      exact .inr ⟨reason, rfl⟩

/-- A key is refused exactly if it is flawed. -/
theorem keyPair_refused_iff :
    (∃ reason, key.keyPair = .error (.invalidKey reason)) ↔ key.IsFlawed := by
  rw [isFlawed_iff]
  constructor
  · rintro ⟨reason, h⟩ pair rfl
    rw [keyPair_ofKeyPair] at h
    cases h
  · intro hnone
    refine (keyPair_cases key).resolve_left ?_
    rintro ⟨pair, h⟩
    exact hnone pair (keyPair_eq_ok_iff.mp h)

/-- Signing an object refuses a key as invalid exactly if it is flawed. -/
theorem sign_refused_iff (created : Timestamp) (members : List (String × Json))
    (options : ProofOptions) :
    (∃ reason, Proof.sign created (.object members) options key = .error (.invalidKey reason)) ↔
      key.IsFlawed := by
  rw [← keyPair_refused_iff]
  have hobject : (Json.object members).members? = some members := rfl
  rw [Proof.sign, hobject]
  cases hkey : key.keyPair with
  | ok pair =>
      -- A key pair may be the wrong one to sign with, but it is not an invalid key.
      constructor
      · rintro ⟨reason, h⟩
        simp only [pure_bind, ok_bind] at h
        split at h
        · cases h
        · cases h
      · rintro ⟨reason, h⟩
        cases h
  | error e => simp only [pure_bind, error_bind, Except.error.injEq]

/-- Tells that a key stands for a key pair in one form only. -/
structure HasOneForm (key : Jwk) : Prop where
  keyPair_iff : ∀ pair, key.keyPair = .ok pair ↔ key = ofKeyPair pair
  accepted_or_refused : (∃ pair, key.keyPair = .ok pair) ∨
    ∃ reason, key.keyPair = .error (.invalidKey reason)
  refused_iff : (∃ reason, key.keyPair = .error (.invalidKey reason)) ↔ key.IsFlawed
  /-- What signs an object has been taken for a key pair first. -/
  signing_refused_iff : ∀ created members options,
    (∃ reason, Proof.sign created (.object members) options key = .error (.invalidKey reason)) ↔
      key.IsFlawed
  /-- No other key holds the same seed. -/
  unique : ∀ (other : Jwk) pair pair', key.keyPair = .ok pair → other.keyPair = .ok pair' →
    pair.seed = pair'.seed → key = other

/-- Every key stands for a key pair in one form only, or is refused for its flaws. -/
theorem hasOneForm (key : Jwk) : key.HasOneForm where
  keyPair_iff pair := keyPair_eq_ok_iff
  accepted_or_refused := keyPair_cases key
  refused_iff := keyPair_refused_iff
  signing_refused_iff := sign_refused_iff
  unique other pair pair' hkey hother hseed := by
    rw [keyPair_eq_ok_iff] at hkey hother
    rw [hkey, hother, eq_of_seed_eq hseed]

end Jwk

end WalletCredentials
