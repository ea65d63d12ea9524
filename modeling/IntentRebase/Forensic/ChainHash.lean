import IntentRebase.Kit.HashChain
import IntentRebase.Types.Common

/-! The chain of forensic bundles: each link hashes its manifest together with the chain hash of the
link before it, so that the last chain hash fixes every manifest. -/

namespace IntentRebase

open Kit

/-- One link of the chain. -/
structure ChainHashLink where
  previousBundleHash : Option String
  currentBundleHash : String
  chainHash : String
  linkedAt : DateTime
deriving DecidableEq, Repr

structure ChainVerificationFailure where
  failures : List String
deriving DecidableEq, Repr

/-! `sha256` is the hexadecimal digest of a text, `debug` the debug print of an optional text, and
`now` the clock at each link. -/

variable (sha256 : String → String) (debug : Option String → String) (now : Nat → DateTime)

/-- The link for a manifest. A manifest comes as a text, so that its serialization cannot fail. -/
def computeChainHash (linkedAt : DateTime) (previousBundleHash : Option String)
    (manifestJson : String) : Except String ChainHashLink :=
  let currentBundleHash := sha256 manifestJson
  let chainHash := match previousBundleHash with
    | some prev => sha256 (prev ++ currentBundleHash)
    | none => currentBundleHash
  .ok { previousBundleHash, currentBundleHash, chainHash, linkedAt }

/-- The failures of the links from `idx` on, after those before. -/
def verifyLinks : Nat → Option String → List String → List (Option String × String) → List String
  | _, _, failures, [] => failures
  | idx, expectedPrevious, failures, (prev, manifest) :: rest =>
    let failures := if expectedPrevious ≠ prev then
        failures ++ [s!"link {idx}: previous_bundle_hash mismatch: expected " ++
          s!"{debug expectedPrevious}, got {debug prev}"]
      else failures
    match computeChainHash sha256 (now idx) prev manifest with
    | .ok computed => verifyLinks (idx + 1) (some computed.chainHash) failures rest
    | .error e => verifyLinks (idx + 1) expectedPrevious
        (failures ++ [s!"link {idx}: manifest serialization failed: {e}"]) rest

def verifyChain (entries : List (Option String × String)) :
    Except ChainVerificationFailure Unit :=
  let failures := verifyLinks sha256 debug now 0 none [] entries
  if failures.isEmpty then .ok () else .error { failures }

/-- The chain hash of a manifest after the previous one. -/
def chainHash (previousBundleHash : Option String) (manifestJson : String) : String :=
  match previousBundleHash with
  | some prev => sha256 (prev ++ sha256 manifestJson)
  | none => sha256 manifestJson

/-- A chain built link by link, each with the chain hash of the link before it. -/
inductive BuiltChain : Option String → List String → List ChainHashLink → Prop
  | nil (prev : Option String) : BuiltChain prev [] []
  | cons {prev : Option String} {linkedAt : DateTime} {manifest : String} {link : ChainHashLink}
      {manifests : List String} {chain : List ChainHashLink} :
      computeChainHash sha256 linkedAt prev manifest = .ok link →
      BuiltChain (some link.chainHash) manifests chain →
      BuiltChain prev (manifest :: manifests) (link :: chain)

/-- The texts that the chain of these manifests hashes. -/
def hashedTexts (manifests : List String) : List String :=
  (links (chainHash sha256) none manifests).flatMap fun p =>
    p.2 :: (p.1.map fun prev => prev ++ sha256 p.2).toList

variable {sha256} {debug} {now} {prev : Option String} {manifests manifests' : List String}
  {chain chain' : List ChainHashLink}

theorem computeChainHash_ok {linkedAt : DateTime} {manifest : String} {link : ChainHashLink}
    (h : computeChainHash sha256 linkedAt prev manifest = .ok link) :
    link.previousBundleHash = prev ∧ link.chainHash = chainHash sha256 prev manifest := by
  obtain rfl := Except.ok.inj h
  exact ⟨rfl, rfl⟩

theorem verifyLinks_eq_nil {idx : Nat} {failures : List String}
    {entries : List (Option String × String)} :
    verifyLinks sha256 debug now idx prev failures entries = [] ↔
      failures = [] ∧ entries = links (chainHash sha256) prev (entries.map Prod.snd) := by
  induction entries generalizing idx prev failures with
  | nil => simp [verifyLinks, links]
  | cons entry rest ih =>
    obtain ⟨given, manifest⟩ := entry
    have hnext : verifyLinks sha256 debug now idx prev failures ((given, manifest) :: rest) =
        verifyLinks sha256 debug now (idx + 1) (some (chainHash sha256 given manifest))
          (if prev ≠ given then
            failures ++ [s!"link {idx}: previous_bundle_hash mismatch: expected " ++
              s!"{debug prev}, got {debug given}"]
          else failures) rest := rfl
    rw [hnext, ih, List.map_cons, links, List.cons.injEq, Prod.mk.injEq]
    split
    · next hne =>
      constructor
      · rintro ⟨hnil, _⟩
        exact absurd hnil (List.append_ne_nil_of_right_ne_nil _ (List.cons_ne_nil _ _))
      · rintro ⟨_, ⟨hsame, _⟩, _⟩
        exact absurd hsame.symm hne
    · next heq =>
      obtain rfl := not_not.mp heq
      simp

/-- The verification accepts a list exactly if it is that of a chain. -/
theorem verifyChain_ok {entries : List (Option String × String)} :
    verifyChain sha256 debug now entries = .ok () ↔
      entries = links (chainHash sha256) none (entries.map Prod.snd) := by
  have hnil : verifyLinks sha256 debug now 0 none [] entries = [] ↔
      [] = [] ∧ entries = links (chainHash sha256) none (entries.map Prod.snd) := verifyLinks_eq_nil
  rw [and_iff_right rfl] at hnil
  rw [← hnil, verifyChain]
  split
  · next h => exact iff_of_true rfl (List.isEmpty_iff.mp h)
  · next h => exact iff_of_false (by simp) fun hempty => h (List.isEmpty_iff.mpr hempty)

theorem BuiltChain.digests (h : BuiltChain sha256 prev manifests chain) :
    chain.map ChainHashLink.chainHash = digests (IntentRebase.chainHash sha256) prev manifests := by
  induction h with
  | nil => rfl
  | cons hlink _ ih =>
    obtain ⟨_, hhash⟩ := computeChainHash_ok hlink
    rw [hhash] at ih
    rw [List.map_cons, hhash, ih]
    rfl

theorem BuiltChain.links (h : BuiltChain sha256 prev manifests chain) :
    (chain.map ChainHashLink.previousBundleHash).zip manifests =
      Kit.links (IntentRebase.chainHash sha256) prev manifests := by
  induction h with
  | nil => rfl
  | cons hlink _ ih =>
    obtain ⟨hprev, hhash⟩ := computeChainHash_ok hlink
    rw [hhash] at ih
    rw [List.map_cons, List.zip_cons_cons, hprev, ih]
    rfl

/-- A link hashes its manifest and, after another link, the chain hash before it with that
digest. -/
theorem mem_hashedTexts {manifest text : String}
    (h : (prev, manifest) ∈ links (chainHash sha256) none manifests)
    (htext : text = manifest ∨ (prev.map fun p => p ++ sha256 manifest) = some text) :
    text ∈ hashedTexts sha256 manifests := by
  refine List.mem_flatMap.mpr ⟨_, h, ?_⟩
  rw [List.mem_cons, Option.mem_toList]
  exact htext

/-- Where the texts do not collide, the links do not: a digest has 64 characters, so the text of a
later link splits in one way. -/
theorem noCollision (hlength : ∀ text, (sha256 text).length = 64)
    (hfree : CollisionFree sha256 (hashedTexts sha256 manifests ++ hashedTexts sha256 manifests')) :
    NoCollision (chainHash sha256) (links (chainHash sha256) none manifests)
      (links (chainHash sha256) none manifests') := by
  rintro ⟨prev, manifest⟩ hp ⟨prev', manifest'⟩ hq hsome hdigest
  have hmanifest : sha256 manifest = sha256 manifest' → manifest = manifest' :=
    hfree _ (List.mem_append_left _ (mem_hashedTexts hp (.inl rfl))) _
      (List.mem_append_right _ (mem_hashedTexts hq (.inl rfl)))
  cases prev with
  | none =>
    cases prev' with
    | none => rw [hmanifest hdigest]
    | some p' => cases hsome
  | some p =>
    cases prev' with
    | none => cases hsome
    | some p' =>
      have htext := hfree _ (List.mem_append_left _ (mem_hashedTexts hp (.inr rfl))) _
        (List.mem_append_right _ (mem_hashedTexts hq (.inr rfl))) hdigest
      have hlist := congrArg String.toList htext
      rw [String.toList_append, String.toList_append] at hlist
      obtain ⟨hprev, hcurrent⟩ := List.append_inj' hlist
        (by rw [String.length_toList, String.length_toList, hlength, hlength])
      rw [String.toList_inj.mp hprev, hmanifest (String.toList_inj.mp hcurrent)]

/-- What a change of a chain of manifests does to its chain hashes. -/
structure TamperEvident (manifests manifests' : List String) (chain chain' : List ChainHashLink) :
    Prop where
  replaced : ∀ i manifest j link link', i < manifests.length → manifests[i]? ≠ some manifest →
    manifests' = manifests.set i manifest → i ≤ j → chain[j]? = some link →
    chain'[j]? = some link' → link.chainHash ≠ link'.chainHash
  last : manifests.length = manifests'.length →
    chain.getLast?.map ChainHashLink.chainHash = chain'.getLast?.map ChainHashLink.chainHash →
    manifests = manifests'

/-- The verification accepts exactly the lists in which each previous hash is the chain hash before
it, those of built chains among them; and a manifest cannot be replaced without a change of its own
and of every later chain hash. -/
theorem chain_tamper_evident (debug : Option String → String) (now : Nat → DateTime)
    (hlength : ∀ text, (sha256 text).length = 64) :
    (∀ entries : List (Option String × String), verifyChain sha256 debug now entries = .ok () ↔
      (∀ p, entries[0]? = some p → p.1 = none) ∧
        ∀ i p q, entries[i]? = some p → entries[i + 1]? = some q →
          q.1 = some (chainHash sha256 p.1 p.2)) ∧
    ∀ manifests chain manifests' chain', BuiltChain sha256 none manifests chain →
      BuiltChain sha256 none manifests' chain' →
      verifyChain sha256 debug now ((chain.map (·.previousBundleHash)).zip manifests) = .ok () ∧
        (CollisionFree sha256 (hashedTexts sha256 manifests ++ hashedTexts sha256 manifests') →
          TamperEvident manifests manifests' chain chain') := by
  refine ⟨fun entries => verifyChain_ok.trans eq_links_iff, ?_⟩
  intro manifests chain manifests' chain' hchain hchain'
  refine ⟨?_, fun hfree => ?_⟩
  · rw [verifyChain_ok, hchain.links, map_snd_links]
  · have hno := noCollision hlength hfree
    refine ⟨?_, fun hcount hlast => ?_⟩
    · intro i manifest j link link' hi hne hset hij hlink hlink'
      have hd := congrArg (·[j]?) hchain.digests
      have hd' := congrArg (·[j]?) hchain'.digests
      simp only [List.getElem?_map, hlink, hlink', Option.map_some] at hd hd'
      refine digest_ne_of_ne hno rfl ?_ hij hd.symm hd'.symm
      rw [hset, List.getElem?_set_self hi]
      exact hne
    · rw [← List.getLast?_map, ← List.getLast?_map, hchain.digests, hchain'.digests] at hlast
      exact eq_of_last_digest_eq hno rfl hcount hlast

/-- The digests of the texts of two chains, of "a" and "b" and of "a" and "c". -/
def sampleSha256 (text : String) : String :=
  let a := "ca978112ca1bbdcafac231b39a23dc4da786eff8147c4e72b9807785afee48bb"
  let b := "3e23e8160039594a33894f6564e1b1348bbd7a0088d42c4acb73eeaed59c009d"
  let c := "2e7d2c03a9507ae265ecf5b5356885a53393a2029d241394997265a1a25aefc6"
  if text = "a" then a
  else if text = "b" then b
  else if text = "c" then c
  else if text = a ++ b then "62af5c3cb8da3e4f25061e829ebeea5c7513c54949115b1acc225930a90154da"
  else if text = a ++ c then "3fa57f52dd820e8d57285c06f6bc654f71bff9ac7c673f8dc7ef61568682e96a"
  else "0000000000000000000000000000000000000000000000000000000000000000"

theorem chain_tamper_evident_sample : ∃ chain chain',
    BuiltChain sampleSha256 none ["a", "b"] chain ∧ BuiltChain sampleSha256 none ["a", "c"] chain' ∧
      TamperEvident ["a", "b"] ["a", "c"] chain chain' := by
  have hlength : ∀ text, (sampleSha256 text).length = 64 := by
    intro text
    simp only [sampleSha256]
    split_ifs <;> decide +kernel
  have hlink : ∀ prev manifest, ∃ link,
      computeChainHash sampleSha256 0 prev manifest = .ok link := fun _ _ => ⟨_, rfl⟩
  have hbuilt : ∀ manifest, ∃ chain, BuiltChain sampleSha256 none ["a", manifest] chain := by
    intro manifest
    obtain ⟨first, hfirst⟩ := hlink none "a"
    obtain ⟨second, hsecond⟩ := hlink (some first.chainHash) manifest
    exact ⟨_, .cons hfirst (.cons hsecond (.nil _))⟩
  obtain ⟨chain, hchain⟩ := hbuilt "b"
  obtain ⟨chain', hchain'⟩ := hbuilt "c"
  have hfree : CollisionFree sampleSha256
      (hashedTexts sampleSha256 ["a", "b"] ++ hashedTexts sampleSha256 ["a", "c"]) := by
    refine CollisionFree.of_nodup (?_ : _ ⊆ ["a", "b", sampleSha256 "a" ++ sampleSha256 "b", "c",
      sampleSha256 "a" ++ sampleSha256 "c"]) (by simp [sampleSha256])
    simp [hashedTexts, links, chainHash]
  exact ⟨chain, chain', hchain, hchain', ((chain_tamper_evident (fun _ => "") (fun _ => 0)
    hlength).2 _ _ _ _ hchain hchain').2 hfree⟩

end IntentRebase
