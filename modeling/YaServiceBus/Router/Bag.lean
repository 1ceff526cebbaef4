import YaServiceBus.Proto

/-! The address bag of the router, `ya_sb_util::PrefixLookupBag`, whose code is not in the
repository: modelled from section 4.A of the spec, as a list of entries with distinct keys and
a lookup that returns the value of the longest key the address falls under. -/
namespace YaServiceBus

/-- Modelled from the spec (section 4.A): whether the address falls under a stored key: it is
the key, or it begins with the key and a `/`. -/
def keyMatches (k addr : String) : Bool := addr == k || (k ++ "/").data.isPrefixOf addr.data

theorem keyMatches_self (k : String) : keyMatches k k = true := by
  simp only [keyMatches, beq_self_eq_true, Bool.true_or]

/-- A key an address falls under is a prefix of it. -/
theorem prefix_of_keyMatches {k addr : String} (h : keyMatches k addr = true) :
    k.data <+: addr.data := by
  rw [keyMatches, Bool.or_eq_true, beq_iff_eq, List.isPrefixOf_iff_prefix] at h
  rcases h with rfl | h
  · exact List.prefix_refl _
  · exact (List.prefix_append _ _).trans (by simpa only [String.data_append] using h)

/-- Two keys one address falls under, of the same length, are the same key. -/
theorem eq_of_keyMatches {k k' addr : String} (h : keyMatches k addr = true)
    (h' : keyMatches k' addr = true) (hl : k.length = k'.length) : k = k' :=
  String.ext (List.prefix_of_prefix_length_le (prefix_of_keyMatches h) (prefix_of_keyMatches h')
    (by rw [String.length_data, String.length_data, hl]) |>.eq_of_length
      (by rw [String.length_data, String.length_data, hl]))

/-- Modelled from the spec (section 4.A): `PrefixLookupBag`, at most one value per key. -/
structure PrefixLookupBag (α : Type) where
  entries : List (String × α)
  nodup : (entries.map Prod.fst).Nodup

namespace PrefixLookupBag

variable {α : Type}

/-- `PrefixLookupBag::default`. -/
def empty : PrefixLookupBag α := ⟨[], List.nodup_nil⟩

/-- `keys`. -/
def keys (b : PrefixLookupBag α) : List String := b.entries.map Prod.fst

/-- `remove`. -/
def remove (b : PrefixLookupBag α) (key : String) : PrefixLookupBag α :=
  ⟨b.entries.filter (·.1 != key), b.nodup.sublist ((List.filter_sublist _).map _)⟩

/-- `insert`: a key bound again keeps only its new value. -/
def insert (b : PrefixLookupBag α) (key : String) (v : α) : PrefixLookupBag α :=
  ⟨(key, v) :: (b.remove key).entries, List.nodup_cons.2 ⟨by simp [remove], (b.remove key).nodup⟩⟩

/-- `get_mut`: the value of the longest key the address falls under. -/
def getMut (b : PrefixLookupBag α) (addr : String) : Option α :=
  ((b.entries.filter (keyMatches ·.1 addr)).argmax (·.1.length)).map Prod.snd

@[simp] theorem keys_remove (b : PrefixLookupBag α) (key : String) :
    (b.remove key).keys = b.keys.filter (· != key) := by
  rw [keys, keys, List.filter_map]
  rfl

@[simp] theorem keys_insert (b : PrefixLookupBag α) (key : String) (v : α) :
    (b.insert key v).keys = key :: b.keys.filter (· != key) := by
  rw [← keys_remove]
  rfl

theorem eq_of_mem_of_fst_eq {b : PrefixLookupBag α} {e e' : String × α} (he : e ∈ b.entries)
    (he' : e' ∈ b.entries) (h : e.1 = e'.1) : e = e' :=
  List.inj_on_of_nodup_map b.nodup he he' h

/-- What `get_mut` finds: an entry whose key the address falls under, and no longer key the
address falls under. -/
theorem getMut_eq_some {b : PrefixLookupBag α} {addr : String} {v : α}
    (h : b.getMut addr = some v) :
    ∃ k, (k, v) ∈ b.entries ∧ keyMatches k addr = true ∧
      ∀ e ∈ b.entries, keyMatches e.1 addr = true → e.1.length ≤ k.length := by
  obtain ⟨⟨k, v'⟩, hm, rfl⟩ := Option.map_eq_some'.1 h
  have hmem := List.mem_filter.1 (List.argmax_mem hm)
  exact ⟨k, hmem.1, hmem.2, fun e he hk =>
    @List.le_of_mem_argmax _ _ _ (fun e : String × α => e.1.length) _ e (k, v')
      (List.mem_filter.2 ⟨he, hk⟩) hm⟩

theorem getMut_eq_none {b : PrefixLookupBag α} {addr : String} :
    b.getMut addr = none ↔ ∀ e ∈ b.entries, keyMatches e.1 addr = false := by
  simp only [getMut, Option.map_eq_none', List.argmax_eq_none, List.filter_eq_nil_iff,
    Bool.not_eq_true]

/-- The value stored under the longest key the address falls under is what `get_mut`
finds. -/
theorem getMut_of_longest {b : PrefixLookupBag α} {addr k : String} {v : α}
    (hk : (k, v) ∈ b.entries) (hm : keyMatches k addr = true)
    (hl : ∀ e ∈ b.entries, keyMatches e.1 addr = true → e.1.length ≤ k.length) :
    b.getMut addr = some v := by
  cases h : b.getMut addr with
  | none => exact absurd hm (by simp [getMut_eq_none.1 h _ hk])
  | some v' =>
    obtain ⟨k', hk', hm', hl'⟩ := getMut_eq_some h
    have hkk : k' = k := eq_of_keyMatches hm' hm (le_antisymm (hl _ hk' hm') (hl' _ hk hm))
    subst hkk
    exact congrArg some (Prod.ext_iff.1 (eq_of_mem_of_fst_eq hk' hk rfl)).2

/-- A key just bound is found by its own address: rebinding replaces. -/
theorem getMut_insert_self (b : PrefixLookupBag α) (key : String) (v : α) :
    (b.insert key v).getMut key = some v := by
  refine getMut_of_longest (List.mem_cons_self _ _) (keyMatches_self key) fun e _ he => ?_
  simpa only [String.length_data] using (prefix_of_keyMatches he).length_le

end PrefixLookupBag

end YaServiceBus
