-- SUMMARY: How the client reads accounts and community identifiers from its command line: `get_accountid_from_str` (a dev seed or an SS58 address) and `verify_cid`, and that each reads back what the client prints.
import EncointerNode.Stdlib.Slices

/-! # Accounts and communities from the command line

`utils::keys::get_accountid_from_str` reads an account: a string whose first
two bytes are `//` is a dev seed such as `//Alice`, anything else an SS58
address. Taking those two bytes is `&account[..2]`, which panics on a string
shorter than two bytes or one whose second byte is inside a character.
`CommunitiesApi::verify_cid` reads a community identifier and panics unless
the chain has it registered.

The client also prints accounts as SS58 addresses and identifiers by their
`Display`, and other commands read those prints back. That they read back to
what was printed (`getAccountidFromStr_toSs58check`, `verifyCid_cidToString`)
rests on the laws of the formats (`KeyOps.Lawful`): an SS58 address parses as
its account and is written in the base-58 alphabet, which has no `/`, and an
identifier parses from its `Display`.

The key derivations of `sp_core` and the keystore behind `get_pair_from_str`
lie outside this repository and enter as the parameters `KeyOps`. -/

namespace Client

open Command

/-- The characters of SS58 addresses: base 58, without `0`, `O`, `I` and `l`. -/
def base58Alphabet : List Char :=
  "123456789ABCDEFGHJKLMNPQRSTUVWXYZabcdefghijkmnopqrstuvwxyz".toList

/-- What the client uses of `sp_core`'s keys and of the textual forms of
    accounts and community identifiers. Fallible parsers return the error's
    `Debug` text. -/
structure KeyOps (Pair Account Cid : Type) where
  /-- `get_pair_from_str`: the pair of a dev seed, a raw seed, a mnemonic or an
      address in the local keystore, or the message of its panic. -/
  getPairFromStr : String → Except String Pair
  /-- `sr25519::Pair::from_string(account, None)`. -/
  pairFromString : String → Except String Pair
  /-- The account of a pair's public key. -/
  accountOf : Pair → Account
  /-- `sr25519::Public::from_ss58check`, as an account. -/
  fromSs58check : String → Except String Account
  /-- `Ss58Codec::to_ss58check`. -/
  toSs58check : Account → String
  /-- `CommunityIdentifier::from_str`. -/
  cidFromStr : String → Except String Cid
  /-- `Display for CommunityIdentifier`. -/
  cidToString : Cid → String

variable {Pair Account Cid σ : Type}

/-- The laws of the formats: an address parses as its account and is at least
    two base-58 characters, and an identifier parses from its `Display`. -/
structure KeyOps.Lawful (keys : KeyOps Pair Account Cid) : Prop where
  fromSs58check_toSs58check : ∀ a, keys.fromSs58check (keys.toSs58check a) = .ok a
  toSs58check_base58 : ∀ a, ∃ c₁ c₂ rest, (keys.toSs58check a).toList = c₁ :: c₂ :: rest ∧
    ∀ c ∈ (keys.toSs58check a).toList, c ∈ base58Alphabet
  cidFromStr_cidToString : ∀ c, keys.cidFromStr (keys.cidToString c) = .ok c

section Reads

variable (keys : KeyOps Pair Account Cid)

/-- `get_accountid_from_str`. -/
def getAccountidFromStr (account : String) : Command σ Account := do
  let head ← strSliceTo account 2
  if head = "//".asBytes then
    let pair ← unwrapOk (keys.pairFromString account)
    pure (keys.accountOf pair)
  else unwrapOk (keys.fromSs58check account)

/-- `verify_cid`, against `cids`, the storage `CommunityIdentifiers`. -/
def verifyCid [DecidableEq Cid] (cids : Option (List Cid)) (cid : String) : Command σ Cid := do
  let cids ← expect cids "no community registered"
  let cid ← unwrapOk (keys.cidFromStr cid)
  if cid ∉ cids then stop (.panic ("cid " ++ keys.cidToString cid ++ " does not exist on chain"))
  pure cid

theorem getAccountidFromStr_check (account : String) :
    Check (getAccountidFromStr keys account : Command σ Account) := by
  refine Check.bind (strSliceTo_check _ _) fun head => ?_
  exact Check.ite (Check.bind (Check.unwrapOk _) fun _ => Check.pure _) (Check.unwrapOk _)

theorem verifyCid_check [DecidableEq Cid] (cids : Option (List Cid)) (cid : String) :
    Check (verifyCid keys cids cid : Command σ Cid) := by
  refine Check.bind (Check.expect _ _) fun cids => Check.bind (Check.unwrapOk _) fun cid => ?_
  exact Check.ite (Check.bind (Check.panic _) fun _ => Check.pure cid) (Check.pure cid)

/-- An identifier `verify_cid` returns is registered. -/
theorem verifyCid_eq_ok [DecidableEq Cid] {cids : Option (List Cid)} {str : String} {c : Cid}
    {p p' : σ} (h : verifyCid keys cids str p = .ok c p') : ∃ l, cids = some l ∧ c ∈ l := by
  obtain ⟨l, p₁, hl, h⟩ := bind_eq_ok h
  obtain ⟨c', p₂, -, h⟩ := bind_eq_ok h
  refine ⟨l, (expect_eq_ok hl).1, ?_⟩
  by_cases hmem : c' ∈ l
  · rw [if_neg (not_not.2 hmem)] at h
    cases h
    exact hmem
  · rw [if_pos hmem] at h
    obtain ⟨_, _, hstop, -⟩ := bind_eq_ok h
    cases hstop

end Reads

/-! ## Reading back what the client prints -/

section ReadBack

variable {keys : KeyOps Pair Account Cid}

-- Decided as a `List.all`: the instance for `∀ c ∈ l` unfolds the string too deeply.
theorem base58Alphabet_ascii : ∀ c ∈ base58Alphabet, c.val ≤ 127 := by
  have hall : base58Alphabet.all (fun c => decide (c.val ≤ 127)) = true := by decide
  exact fun c hc => of_decide_eq_true (List.all_eq_true.1 hall c hc)

theorem base58Alphabet_toUInt8_ne_slash : ∀ c ∈ base58Alphabet, c.toUInt8 ≠ 47 := by
  have hall : base58Alphabet.all (fun c => c.toUInt8 != 47) = true := by decide
  exact fun c hc => bne_iff_ne.1 (List.all_eq_true.1 hall c hc)

/-- An account's address reads back as the account, through the address branch:
    its first byte is a base-58 character, never `/`. -/
theorem getAccountidFromStr_toSs58check (hkeys : keys.Lawful) (a : Account) (p : σ) :
    getAccountidFromStr keys (keys.toSs58check a) p = .ok a p := by
  obtain ⟨c₁, c₂, rest, hs, hall⟩ := hkeys.toSs58check_base58 a
  have hascii : ∀ c ∈ (keys.toSs58check a).toList, c.val ≤ 127 :=
    fun c hc => base58Alphabet_ascii c (hall c hc)
  have hhead : [c₁.toUInt8, c₂.toUInt8] ≠ "//".asBytes := by
    have hslash : "//".asBytes = [47, 47] := by decide
    rw [hslash]
    intro h
    exact base58Alphabet_toUInt8_ne_slash c₁ (hall c₁ (by rw [hs]; simp)) (List.cons.inj h).1
  rw [getAccountidFromStr, bind_of_ok (strSliceTo_two_of_ascii hs hascii p), if_neg hhead]
  rw [hkeys.fromSs58check_toSs58check, unwrapOk_ok]
  rfl

/-- A registered identifier reads back from its `Display`. -/
theorem verifyCid_cidToString [DecidableEq Cid] (hkeys : keys.Lawful) {cids : List Cid} {c : Cid}
    (hc : c ∈ cids) (p : σ) : verifyCid keys (some cids) (keys.cidToString c) p = .ok c p := by
  simp only [verifyCid, expect_some, pure_bind, hkeys.cidFromStr_cidToString, unwrapOk_ok]
  rw [if_neg (not_not.2 hc)]
  rfl

end ReadBack

end Client
