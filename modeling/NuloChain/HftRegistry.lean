import NuloChain.HftRuns

/-! The token registry, chain by chain. The storage maps of all chains are updated by two
loops; what each loop does to one chain is a single operation on the routes of that chain. -/
namespace NuloChain.Hft
open Frame
set_option linter.unusedSectionVars false
variable {A O C I K Λ : Type} [DecidableEq A] [DecidableEq C] [DecidableEq I]

/-- The registry of one chain. -/
@[ext] structure Routes (I : Type) where
  contract : I → Option Bytes
  asset : Bytes → Option I
  decimals : I → Option UInt8

namespace Routes

/-- Point `a` to a contract and the contract back to `a`. -/
def put (ρ : Routes I) (a : I) (config : ChainConfig) : Routes I where
  contract := Function.update ρ.contract a (some config.tokenContract)
  asset := Function.update ρ.asset config.tokenContract (some a)
  decimals := Function.update ρ.decimals a (some config.decimals)

/-- Drop the way back from the contract of `a`. -/
def forget (ρ : Routes I) (a : I) : Routes I :=
  match ρ.contract a with
  | some old => { ρ with asset := Function.update ρ.asset old none }
  | none => ρ

def replace (ρ : Routes I) (a : I) (config : ChainConfig) : Routes I := (ρ.forget a).put a config

def drop (ρ : Routes I) (a : I) : Routes I :=
  { ρ.forget a with
    contract := Function.update ρ.contract a none
    decimals := Function.update ρ.decimals a none }

/-- The way there and the way back agree. -/
def Paired (ρ : Routes I) : Prop := ∀ a k, ρ.asset k = some a ↔ ρ.contract a = some k

theorem forget_contract (ρ : Routes I) (a : I) : (ρ.forget a).contract = ρ.contract := by
  unfold forget
  split
  · rfl
  · rfl

theorem forget_decimals (ρ : Routes I) (a : I) : (ρ.forget a).decimals = ρ.decimals := by
  unfold forget
  split
  · rfl
  · rfl

theorem forget_asset (ρ : Routes I) (a : I) (k : Bytes) :
    (ρ.forget a).asset k = if ρ.contract a = some k then none else ρ.asset k := by
  unfold forget
  split
  · rename_i old hold
    rw [hold]
    by_cases hk : k = old
    · subst hk
      simp
    · simp [hk, Ne.symm hk]
  · rename_i hnone
    rw [hnone]
    simp

/-- The way from `a` to the chain: its contract there, and the decimals of that. -/
def forward (ρ : Routes I) (a : I) : Option Bytes × Option UInt8 := (ρ.contract a, ρ.decimals a)

/-- Exactly the assets with a contract have decimals. -/
def Priced (ρ : Routes I) : Prop := ∀ a, (ρ.contract a).isSome ↔ (ρ.decimals a).isSome

theorem forward_put (ρ : Routes I) (a b : I) (config : ChainConfig) :
    (ρ.put a config).forward b =
      if b = a then (some config.tokenContract, some config.decimals) else ρ.forward b := by
  by_cases hb : b = a
  · simp [forward, put, hb]
  · simp [forward, put, hb]

theorem forward_replace (ρ : Routes I) (a b : I) (config : ChainConfig) :
    (ρ.replace a config).forward b =
      if b = a then (some config.tokenContract, some config.decimals) else ρ.forward b := by
  rw [replace, forward_put, forward, forward, forget_contract, forget_decimals]

theorem forward_drop (ρ : Routes I) (a b : I) :
    (ρ.drop a).forward b = if b = a then (none, none) else ρ.forward b := by
  by_cases hb : b = a
  · simp [forward, drop, hb]
  · simp [forward, drop, hb]

/-- Assets with a contract and with decimals are read off the forward routes. -/
theorem priced_iff (ρ : Routes I) :
    ρ.Priced ↔ ∀ a, (ρ.forward a).1.isSome ↔ (ρ.forward a).2.isSome := Iff.rfl

theorem drop_drop (ρ : Routes I) (a : I) : (ρ.drop a).drop a = ρ.drop a := by
  ext x y
  · simp [drop]
  · simp only [drop]
    rw [forget_asset]
    simp
  · simp [drop]

/-- The two ways agree for every asset but `a`. -/
def PairedExcept (ρ : Routes I) (a : I) : Prop :=
  ∀ b, b ≠ a → ∀ k, ρ.asset k = some b ↔ ρ.contract b = some k

theorem contract_free_iff (ρ : Routes I) (a : I) (k : Bytes) (h : ρ.Paired) :
    (∀ j, j ≠ k → ρ.asset j ≠ some a) ↔ ρ.contract a = none ∨ ρ.contract a = some k := by
  constructor
  · intro hfree
    rcases hc : ρ.contract a with _ | old
    · exact Or.inl rfl
    · by_contra hne
      have hold : old ≠ k := fun heq => hne (Or.inr (congrArg some heq))
      exact hfree old hold ((h a old).mpr hc)
  · intro hfree j hj hasset
    have hc := (h a j).mp hasset
    rcases hfree with hnone | hk
    · rw [hnone] at hc
      cases hc
    · rw [hk] at hc
      exact hj (Option.some.inj hc).symm

theorem asset_free_iff (ρ : Routes I) (a : I) (k : Bytes) (h : ρ.Paired) :
    (∀ b, b ≠ a → ρ.contract b ≠ some k) ↔ ρ.asset k = none ∨ ρ.asset k = some a := by
  constructor
  · intro hfree
    rcases hc : ρ.asset k with _ | other
    · exact Or.inl rfl
    · by_contra hne
      have hother : other ≠ a := fun heq => hne (Or.inr (congrArg some heq))
      exact hfree other hother ((h other k).mp hc)
  · intro hfree b hb hcontract
    have hc := (h b k).mpr hcontract
    rcases hfree with hnone | ha
    · rw [hnone] at hc
      cases hc
    · rw [ha] at hc
      exact hb (Option.some.inj hc).symm

/-- Pointing `a` to a contract pairs the routes exactly when no other contract leads to `a`
and no other asset leads to the contract. -/
theorem put_paired (ρ : Routes I) (a : I) (config : ChainConfig) (h : ρ.PairedExcept a) :
    (ρ.put a config).Paired ↔
      (∀ k, k ≠ config.tokenContract → ρ.asset k ≠ some a) ∧
        (∀ b, b ≠ a → ρ.contract b ≠ some config.tokenContract) := by
  constructor
  · intro hput
    constructor
    · -- a stale contract would still lead to `a`, which no longer leads back
      intro k hk hasset
      have hstale : (ρ.put a config).asset k = some a := by simp [put, hk, hasset]
      have hthere := (hput a k).mp hstale
      simp only [put, Function.update_self, Option.some.injEq] at hthere
      exact hk hthere.symm
    · -- another asset would still lead to the contract, which now leads to `a`
      intro b hb hcontract
      have hkept : (ρ.put a config).contract b = some config.tokenContract := by
        simp [put, hb, hcontract]
      have hback := (hput b _).mpr hkept
      simp only [put, Function.update_self, Option.some.injEq] at hback
      exact hb hback.symm
  · rintro ⟨hstale, hother⟩ b k
    by_cases hb : b = a
    · subst hb
      by_cases hk : k = config.tokenContract
      · subst hk
        simp [put]
      · simp only [put, Function.update_of_ne hk, Function.update_self, Option.some.injEq]
        exact ⟨fun hc => absurd hc (hstale k hk), fun hc => absurd hc.symm hk⟩
    · by_cases hk : k = config.tokenContract
      · subst hk
        simp only [put, Function.update_self, Function.update_of_ne hb, Option.some.injEq]
        exact ⟨fun hc => absurd hc.symm hb, fun hc => absurd hc (hother b hb)⟩
      · simp only [put, Function.update_of_ne hb, Function.update_of_ne hk]
        exact h b hb k

/-- Registering on a chain keeps the pairing exactly when the asset has no other contract
there and the contract no other asset. -/
theorem put_paired_iff (ρ : Routes I) (a : I) (config : ChainConfig) (h : ρ.Paired) :
    (ρ.put a config).Paired ↔
      (ρ.contract a = none ∨ ρ.contract a = some config.tokenContract) ∧
        (ρ.asset config.tokenContract = none ∨ ρ.asset config.tokenContract = some a) := by
  rw [put_paired ρ a config (fun b _ => h b), contract_free_iff ρ a _ h, asset_free_iff ρ a _ h]

/-- Without the asset that is being moved, what is left is paired. -/
theorem forget_paired (ρ : Routes I) (a : I) (h : ρ.Paired) : (ρ.forget a).PairedExcept a := by
  intro b hb k
  rw [forget_asset, forget_contract]
  by_cases hk : ρ.contract a = some k
  · have hback : ρ.asset k = some a := (h a k).mpr hk
    rw [if_pos hk]
    refine ⟨(fun hc => by cases hc), fun hc => ?_⟩
    have hb' : ρ.asset k = some b := (h b k).mpr hc
    rw [hback] at hb'
    exact absurd (Option.some.inj hb').symm hb
  · rw [if_neg hk]
    exact h b k

theorem forget_ne (ρ : Routes I) (a : I) (h : ρ.Paired) (k : Bytes) :
    (ρ.forget a).asset k ≠ some a := by
  rw [forget_asset]
  by_cases hk : ρ.contract a = some k
  · rw [if_pos hk]
    exact fun hc => by cases hc
  · rw [if_neg hk]
    exact fun hc => hk ((h a k).mp hc)

theorem drop_paired (ρ : Routes I) (a : I) (h : ρ.Paired) : (ρ.drop a).Paired := by
  intro b k
  by_cases hb : b = a
  · subst hb
    simp only [drop, Function.update_self]
    exact ⟨fun hc => absurd hc (forget_ne ρ b h k), fun hc => by cases hc⟩
  · have hforget := forget_paired ρ a h b hb k
    rw [forget_contract] at hforget
    simp only [drop, Function.update_of_ne hb]
    exact hforget

/-- Moving an asset to a contract keeps the pairing exactly when no other asset has it. -/
theorem replace_paired_iff (ρ : Routes I) (a : I) (config : ChainConfig) (h : ρ.Paired) :
    (ρ.replace a config).Paired ↔
      ρ.asset config.tokenContract = none ∨ ρ.asset config.tokenContract = some a := by
  rw [replace, put_paired _ a config (forget_paired ρ a h), forget_contract,
    asset_free_iff ρ a _ h]
  exact and_iff_right (fun k _ => forget_ne ρ a h k)

/-- Dropping the asset right after moving it does not restore what the move broke. -/
theorem drop_replace_paired_iff (ρ : Routes I) (a : I) (config : ChainConfig) (h : ρ.Paired) :
    ((ρ.replace a config).drop a).Paired ↔
      ρ.asset config.tokenContract = none ∨ ρ.asset config.tokenContract = some a := by
  constructor
  · intro hdrop
    apply (asset_free_iff ρ a _ h).mp
    intro b hb hcontract
    have hthere : ((ρ.replace a config).drop a).contract b = some config.tokenContract := by
      simp only [drop, replace, put, Function.update_of_ne hb, forget_contract]
      exact hcontract
    -- the removal forgets the contract, and with it the way back to the other asset
    have hgone : ((ρ.replace a config).drop a).asset config.tokenContract = none := by
      simp only [drop]
      rw [forget_asset, if_pos]
      simp [replace, put]
    have hback := (hdrop b _).mpr hthere
    rw [hgone] at hback
    cases hback
  · intro hasset
    exact drop_paired _ a ((replace_paired_iff ρ a config h).mpr hasset)

end Routes

/-- The part of the registry that belongs to `chain`. -/
def routes (chain : C) (r : Registry C I) : Routes I where
  contract a := r.tokenContracts.get (chain, a)
  asset k := r.contractToAsset.get (chain, k)
  decimals a := r.precisions.get (a, chain)

theorem routes_registerChain (a : I) (r : Registry C I) (entry : C × ChainConfig) :
    routes entry.1 (registerChain a r entry) = (routes entry.1 r).put a entry.2 := by
  ext x y
  · simp [routes, registerChain, Routes.put, StorageMap.get_insert, Function.update_apply]
  · simp [routes, registerChain, Routes.put, StorageMap.get_insert, Function.update_apply]
  · simp [routes, registerChain, Routes.put, StorageMap.get_insert, Function.update_apply]

theorem routes_registerChain_ne (a : I) (r : Registry C I) (entry : C × ChainConfig) (c : C)
    (hc : c ≠ entry.1) : routes c (registerChain a r entry) = routes c r := by
  ext x y
  · simp [routes, registerChain, StorageMap.get_insert, hc]
  · simp [routes, registerChain, StorageMap.get_insert, hc]
  · simp [routes, registerChain, StorageMap.get_insert, hc]

theorem routes_forgetContract (a : I) (chain : C) (r : Registry C I) :
    routes chain (forgetContract a chain r) = (routes chain r).forget a := by
  have hread : (routes chain r).contract a = r.tokenContracts.get (chain, a) := rfl
  unfold forgetContract Routes.forget
  rw [hread]
  cases r.tokenContracts.get (chain, a) with
  | none => rfl
  | some old =>
    ext x y
    · rfl
    · simp [routes, StorageMap.get_remove, Function.update_apply]
    · rfl

theorem routes_forgetContract_ne (a : I) (chain c : C) (r : Registry C I) (hc : c ≠ chain) :
    routes c (forgetContract a chain r) = routes c r := by
  unfold forgetContract
  cases r.tokenContracts.get (chain, a) with
  | none => rfl
  | some old =>
    ext x y
    · rfl
    · simp [routes, StorageMap.get_remove, hc]
    · rfl

theorem routes_addChain (a : I) (r : Registry C I) (entry : C × ChainConfig) :
    routes entry.1 (addChain a r entry) = (routes entry.1 r).replace a entry.2 := by
  rw [addChain, routes_registerChain, routes_forgetContract, Routes.replace]

theorem routes_addChain_ne (a : I) (r : Registry C I) (entry : C × ChainConfig) (c : C)
    (hc : c ≠ entry.1) : routes c (addChain a r entry) = routes c r := by
  rw [addChain, routes_registerChain_ne _ _ _ _ hc, routes_forgetContract_ne _ _ _ _ hc]

theorem routes_removeChain (a : I) (r : Registry C I) (chain : C) :
    routes chain (removeChain a r chain) = (routes chain r).drop a := by
  have h := routes_forgetContract a chain r
  have hcontract := congrArg Routes.contract h
  have hdecimals := congrArg Routes.decimals h
  rw [Routes.forget_contract] at hcontract
  rw [Routes.forget_decimals] at hdecimals
  ext x y
  · rw [Routes.drop, ← hcontract]
    simp [routes, removeChain, StorageMap.get_remove, Function.update_apply]
  · rw [Routes.drop, ← h]
    rfl
  · rw [Routes.drop, ← hdecimals]
    simp [routes, removeChain, StorageMap.get_remove, Function.update_apply]

theorem routes_removeChain_ne (a : I) (r : Registry C I) (chain c : C) (hc : c ≠ chain) :
    routes c (removeChain a r chain) = routes c r := by
  rw [← routes_forgetContract_ne a chain c r hc]
  ext x y
  · simp [routes, removeChain, StorageMap.get_remove, hc]
  · rfl
  · simp [routes, removeChain, StorageMap.get_remove, hc]

theorem entries_keys (m : BTreeMap C ChainConfig) : (entries m).map Prod.fst = m.keys := by
  unfold entries
  rw [List.map_map]
  rfl

theorem mem_entries (m : BTreeMap C ChainConfig) (c : C) (config : ChainConfig) :
    (c, config) ∈ entries m ↔ m.lookup c = some config := by
  have h : m.lookup c = some config ↔ (⟨c, config⟩ : Sigma fun _ : C => ChainConfig) ∈ m.entries :=
    AList.mem_lookup_iff
  rw [h]
  unfold entries
  constructor
  · intro hmem
    obtain ⟨e, he, heq⟩ := List.mem_map.mp hmem
    cases heq
    exact he
  · intro hmem
    exact List.mem_map.mpr ⟨_, hmem, rfl⟩

/-- A loop over the entries of a map whose turns act on the routes of their own chain acts
once on every chain that the map lists. -/
theorem routes_foldl_entries (f : Registry C I → C × ChainConfig → Registry C I)
    (g : Routes I → ChainConfig → Routes I)
    (hframe : ∀ r entry c, c ≠ entry.1 → routes c (f r entry) = routes c r)
    (hlocal : ∀ r entry, routes entry.1 (f r entry) = g (routes entry.1 r) entry.2)
    (m : BTreeMap C ChainConfig) (r : Registry C I) (c : C) :
    routes c ((entries m).foldl f r) =
      match m.lookup c with
      | some config => g (routes c r) config
      | none => routes c r := by
  have hnodup : ((entries m).map Prod.fst).Nodup := by
    rw [entries_keys]
    exact m.keys_nodup
  rcases h : m.lookup c with _ | config
  · refine run_view_of_notMem f routes hframe _ r c ?_
    rw [entries_keys]
    exact AList.lookup_eq_none.mp h
  · exact run_view_of_mem f routes g hframe hlocal _ r c config hnodup ((mem_entries m c config).mpr h)

/-- What a registration does to one chain. -/
theorem routes_registered (r : Registry C I) (registration : TokenRegistration C I) (c : C) :
    routes c (registered r registration) =
      match registration.chains.lookup c with
      | some config => (routes c r).put registration.localId config
      | none => routes c r :=
  routes_foldl_entries (registerChain registration.localId)
    (fun ρ config => ρ.put registration.localId config)
    (routes_registerChain_ne registration.localId) (routes_registerChain registration.localId)
    registration.chains _ c

/-- What an update does to one chain: first the addition, then the removal. -/
theorem routes_updated (r : Registry C I) (update : TokenUpdate C I) (c : C) :
    routes c (updated r update) =
      let ρ := match update.addChains.lookup c with
        | some config => (routes c r).replace update.assetId config
        | none => routes c r
      if c ∈ update.removeChains then ρ.drop update.assetId else ρ := by
  have hadd := routes_foldl_entries (addChain update.assetId)
    (fun ρ config => ρ.replace update.assetId config)
    (routes_addChain_ne update.assetId) (routes_addChain update.assetId) update.addChains r c
  -- a chain may be listed for removal more than once; the second removal finds nothing
  have hremove := run_view_keys (removeChain update.assetId) routes
    (fun ρ => ρ.drop update.assetId)
    (fun s j k hk => routes_removeChain_ne update.assetId s j k hk)
    (fun s k => routes_removeChain update.assetId s k) (fun ρ => ρ.drop_drop update.assetId)
    update.removeChains ((entries update.addChains).foldl (addChain update.assetId) r) c
  rw [hadd] at hremove
  exact hremove

variable (T : Config A O C I K Λ)

/-- An accepted registration gives its asset no second contract on a chain, and no accepted
call takes a contract that another asset has. -/
def KeepsPairs (s : Storage A C I Λ) : RegistryCall O C I → Prop
  | .registerToken origin registration => T.createOrigin origin = true →
    ∀ c config, registration.chains.lookup c = some config →
      (s.registry.tokenContracts.get (c, registration.localId) = none ∨
        s.registry.tokenContracts.get (c, registration.localId) = some config.tokenContract) ∧
      (s.registry.contractToAsset.get (c, config.tokenContract) = none ∨
        s.registry.contractToAsset.get (c, config.tokenContract) = some registration.localId)
  | .updateToken origin update => T.createOrigin origin = true →
    ∀ c config, update.addChains.lookup c = some config →
      s.registry.contractToAsset.get (c, config.tokenContract) = none ∨
        s.registry.contractToAsset.get (c, config.tokenContract) = some update.assetId

theorem registryStep_registry (s : Storage A C I Λ) (op : RegistryCall O C I) :
    (registryStep T s op).registry =
      match op with
      | .registerToken origin registration =>
        if T.createOrigin origin = true then registered s.registry registration else s.registry
      | .updateToken origin update =>
        if T.createOrigin origin = true then updated s.registry update else s.registry := by
  cases op with
  | registerToken origin registration =>
    simp only [registryStep, Dispatch.transactional]
    by_cases h : T.createOrigin origin = true
    · obtain ⟨e, he⟩ := registerToken_accepted T origin registration s h
      rw [he, if_pos h]
    · rw [registerToken_refused T origin registration s h, if_neg h]
  | updateToken origin update =>
    simp only [registryStep, Dispatch.transactional]
    by_cases h : T.createOrigin origin = true
    · rw [updateToken_accepted T origin update s h, if_pos h]
    · rw [updateToken_refused T origin update s h, if_neg h]

/-- One call keeps every chain paired exactly under its condition. -/
theorem registryStep_paired_iff (s : Storage A C I Λ) (op : RegistryCall O C I)
    (hs : ∀ c, (routes c s.registry).Paired) :
    (∀ c, (routes c (registryStep T s op).registry).Paired) ↔ KeepsPairs T s op := by
  cases op with
  | registerToken origin registration =>
    by_cases horigin : T.createOrigin origin = true
    · simp only [registryStep_registry, KeepsPairs, horigin, if_true, true_imp_iff]
      apply forall_congr'
      intro c
      rw [routes_registered]
      rcases hc : registration.chains.lookup c with _ | config
      · simp [hs c]
      · simp only [Option.some.injEq, forall_eq']
        exact Routes.put_paired_iff _ _ _ (hs c)
    · simp [registryStep_registry, KeepsPairs, horigin, hs]
  | updateToken origin update =>
    by_cases horigin : T.createOrigin origin = true
    · simp only [registryStep_registry, KeepsPairs, horigin, if_true, true_imp_iff]
      apply forall_congr'
      intro c
      rw [routes_updated]
      -- a chain that is only removed stays paired; one that is added needs its contract to be free
      rcases hc : update.addChains.lookup c with _ | config
      · by_cases hmem : c ∈ update.removeChains
        · simp [hmem, Routes.drop_paired _ _ (hs c)]
        · simp [hmem, hs c]
      · simp only [Option.some.injEq, forall_eq']
        by_cases hmem : c ∈ update.removeChains
        · simp only [if_pos hmem]
          exact Routes.drop_replace_paired_iff _ _ _ (hs c)
        · simp only [if_neg hmem]
          exact Routes.replace_paired_iff _ _ _ (hs c)
    · simp [registryStep_registry, KeepsPairs, horigin, hs]

/-- The registry is a bijection on every chain throughout a run exactly when no call of the
run gives an asset a second contract by registration or takes the contract of another. -/
theorem registry_bijective_iff (L : Λ) (ops : List (RegistryCall O C I)) :
    (∀ pre, pre <+: ops → ∀ c a k,
      (run (registryStep T) (emptyStorage L) pre).registry.contractToAsset.get (c, k) = some a ↔
        (run (registryStep T) (emptyStorage L) pre).registry.tokenContracts.get (c, a) = some k) ↔
      Along (registryStep T) (KeepsPairs T) (emptyStorage L) ops := by
  have hempty : ∀ c, (routes c (emptyStorage L : Storage A C I Λ).registry).Paired := by
    intro c a k
    simp [routes, emptyStorage, emptyRegistry]
  exact invariant_along_iff (registryStep T) (KeepsPairs T)
    (fun s => ∀ c, (routes c s.registry).Paired)
    (fun s op hs => registryStep_paired_iff T s op hs) ops (emptyStorage L) hempty

/-- The forward route that `update` asks for, given the one there was. -/
def TokenUpdate.merged (update : TokenUpdate C I) (c : C) (a : I)
    (old : Option Bytes × Option UInt8) : Option Bytes × Option UInt8 :=
  if a = update.assetId then
    if c ∈ update.removeChains then (none, none)
    else match update.addChains.lookup c with
      | some config => (some config.tokenContract, some config.decimals)
      | none => old
  else old

/-- Whatever the lists repeat and however they overlap, the loops merge them. -/
theorem forward_updated (r : Registry C I) (update : TokenUpdate C I) (c : C) (a : I) :
    (routes c (updated r update)).forward a = update.merged c a ((routes c r).forward a) := by
  rw [routes_updated, TokenUpdate.merged]
  dsimp only
  by_cases ha : a = update.assetId
  · by_cases hc : c ∈ update.removeChains
    · simp only [if_pos ha, if_pos hc, Routes.forward_drop]
    · rw [if_pos ha, if_neg hc, if_neg hc]
      rcases update.addChains.lookup c with _ | config
      · rfl
      · simp only [Routes.forward_replace, if_pos ha]
  · -- neither loop writes to another asset
    have hadd : (match update.addChains.lookup c with
        | some config => (routes c r).replace update.assetId config
        | none => routes c r).forward a = (routes c r).forward a := by
      rcases update.addChains.lookup c with _ | config
      · rfl
      · simp only [Routes.forward_replace, if_neg ha]
    rw [if_neg ha]
    by_cases hc : c ∈ update.removeChains
    · rw [if_pos hc, Routes.forward_drop, if_neg ha, hadd]
    · rw [if_neg hc, hadd]

theorem forward_registered (r : Registry C I) (registration : TokenRegistration C I) (c : C)
    (a : I) :
    (routes c (registered r registration)).forward a =
      match registration.chains.lookup c with
      | some config =>
        if a = registration.localId then (some config.tokenContract, some config.decimals)
        else (routes c r).forward a
      | none => (routes c r).forward a := by
  rw [routes_registered]
  rcases registration.chains.lookup c with _ | config
  · rfl
  · exact Routes.forward_put _ _ _ _

theorem registered_priced (r : Registry C I) (registration : TokenRegistration C I)
    (h : ∀ c, (routes c r).Priced) (c : C) : (routes c (registered r registration)).Priced := by
  rw [Routes.priced_iff]
  intro a
  rw [forward_registered]
  rcases registration.chains.lookup c with _ | config
  · exact h c a
  · dsimp only
    split
    · exact Iff.rfl
    · exact h c a

theorem updated_priced (r : Registry C I) (update : TokenUpdate C I)
    (h : ∀ c, (routes c r).Priced) (c : C) : (routes c (updated r update)).Priced := by
  rw [Routes.priced_iff]
  intro a
  rw [forward_updated, TokenUpdate.merged]
  split
  · split
    · exact Iff.rfl
    · rcases update.addChains.lookup c with _ | config
      · exact h c a
      · exact Iff.rfl
  · exact h c a

theorem registryStep_priced (s : Storage A C I Λ) (op : RegistryCall O C I)
    (h : ∀ c, (routes c s.registry).Priced) (c : C) :
    (routes c (registryStep T s op).registry).Priced := by
  rw [registryStep_registry]
  cases op with
  | registerToken origin registration =>
    dsimp only
    split
    · exact registered_priced _ registration h c
    · exact h c
  | updateToken origin update =>
    dsimp only
    split
    · exact updated_priced _ update h c
    · exact h c

/-- Over any registry that registrations and updates built, an update merges its lists into
the forward routes of its asset, contracts and decimals stay paired, and no `send` finds a
contract without decimals. -/
theorem forward_routes_merge (L : Λ) (ops : List (RegistryCall O C I)) (s : Storage A C I Λ)
    (hs : s.registry =
      (run (registryStep T) (emptyStorage L : Storage A C I Λ) ops).registry) :
    (∀ origin update t, updateToken T origin update s = (.ok (), t) → ∀ c a,
      (t.registry.tokenContracts.get (c, a), t.registry.precisions.get (a, c)) =
        update.merged c a
          (s.registry.tokenContracts.get (c, a), s.registry.precisions.get (a, c))) ∧
    (∀ c a, (s.registry.tokenContracts.get (c, a)).isSome ↔
      (s.registry.precisions.get (a, c)).isSome) ∧
    ∀ origin params t, send T origin params s ≠ (.error (.pallet .decimalsNotFound), t) := by
  have hpriced : ∀ c, (routes c s.registry).Priced := by
    rw [hs]
    apply run_invariant_always (registryStep T) (fun s => ∀ c, (routes c s.registry).Priced)
    · exact fun s op h c => registryStep_priced T s op h c
    · exact fun c a => Iff.rfl
  refine ⟨?_, fun c a => hpriced c a, ?_⟩
  · intro origin update t hupdate c a
    by_cases horigin : T.createOrigin origin = true
    · rw [updateToken_accepted T origin update s horigin] at hupdate
      obtain rfl := (Prod.mk.inj hupdate).2
      exact forward_updated s.registry update c a
    · rw [updateToken_refused T origin update s horigin] at hupdate
      cases (Prod.mk.inj hupdate).1
  · intro origin params t hsend
    obtain ⟨⟨contract, hcontract⟩, hdecimals⟩ := send_decimalsNotFound T origin params s t hsend
    have hpair : (s.registry.tokenContracts.get (params.destination, params.assetId)).isSome ↔
        (s.registry.precisions.get (params.assetId, params.destination)).isSome :=
      hpriced params.destination params.assetId
    rw [hcontract, hdecimals] at hpair
    cases hpair.mp rfl

/-- The chain is added and removed by the same update: the removal wins. -/
theorem forward_routes_merge_overlap :
    let s := Mock.funded 0
    let t := { s with registry := updated s.registry ⟨0, Mock.oneChain 1 [1, 2, 3] 6, [1, 1]⟩ }
    (t.registry.tokenContracts.get (1, 0), t.registry.precisions.get (0, 1)) = (none, none) :=
  (forward_routes_merge Mock.config
    (Ledger.endowed [(Mock.alice, 1000000000000000), (Mock.palletAccount, 0)])
    [.registerToken .root ⟨0, true, Mock.oneChain 1 Mock.remoteContract 18⟩] (Mock.funded 0) rfl).1
    .root ⟨0, Mock.oneChain 1 [1, 2, 3] 6, [1, 1]⟩ _
    (updateToken_accepted Mock.config _ _ _ rfl) 1 0

/-- An asset is registered on a chain, and then again with a new contract there. -/
def registeredTwice : List (RegistryCall (RawOrigin Bytes32) ℕ ℕ) :=
  [.registerToken .root ⟨7, true, Mock.oneChain 1 Mock.remoteContract 18⟩,
    .registerToken .root ⟨7, true, Mock.oneChain 1 [1, 2, 3] 18⟩]

theorem registeredTwice_keeps_stale_contract :
    let s := run (registryStep Mock.config) (emptyStorage Ledger.vacant) registeredTwice
    ¬ ∀ c a k, s.registry.contractToAsset.get (c, k) = some a ↔
      s.registry.tokenContracts.get (c, a) = some k := by
  intro s h
  have hback : s.registry.contractToAsset.get (1, Mock.remoteContract) = some 7 := by
    decide +kernel
  have hthere : s.registry.tokenContracts.get (1, 7) = some [1, 2, 3] := by decide +kernel
  have hold := (h 1 7 Mock.remoteContract).mp hback
  rw [hthere] at hold
  exact absurd hold (by decide)

end NuloChain.Hft
