import SubnetRouter.Provider

/-!
# Looking up what was stored

* `get?_insert`: what one store changes.
* `get?_insertEach`: what a run of stores leaves under a text.
* `resolve_congr`: resolving a subnet reads nothing but the entry of that subnet.
-/

namespace SubnetRouter.Registry

theorem ext_get? {r r' : Registry} (h : ∀ key, r.get? key = r'.get? key) : r = r' := by
  cases r
  cases r'
  rw [mk.injEq]
  exact Std.ExtTreeMap.ext_getElem? h

theorem get?_insert (r : Registry) (id : SubnetId) (config : SubnetConfig) (key : String) :
    (r.insert id config).get? key = if id.text = key then some config else r.get? key := by
  unfold insert get?
  rw [Std.ExtTreeMap.getElem?_insert]
  simp only [Std.compare_eq_iff_eq]

theorem getSubnet?_insert (r : Registry) (id b : SubnetId) (config : SubnetConfig) :
    (r.insert id config).getSubnet? b =
      if id.text = b.text then some config else r.getSubnet? b :=
  get?_insert r id config b.text

/-! ## Runs of stores -/

/-- The registry after a run of stores, the first of them first. -/
def insertEach (r : Registry) (stores : List (SubnetId × SubnetConfig)) : Registry :=
  stores.foldl (fun r store => r.insert store.1 store.2) r

/-- What the last of the stores under a text stores there. -/
def lastStored? (key : String) : List (SubnetId × SubnetConfig) → Option SubnetConfig
  | [] => none
  | (id, config) :: stores =>
    (lastStored? key stores).or (if id.text = key then some config else none)

theorem get?_insertEach (r : Registry) (stores : List (SubnetId × SubnetConfig))
    (key : String) :
    (r.insertEach stores).get? key = (lastStored? key stores).or (r.get? key) := by
  unfold insertEach
  induction stores generalizing r with
  | nil => rfl
  | cons store stores ih =>
      rw [List.foldl_cons, ih, get?_insert, lastStored?, Option.or_assoc]
      by_cases htext : store.1.text = key
      · rw [if_pos htext, if_pos htext, Option.some_or]
      · rw [if_neg htext, if_neg htext, Option.none_or]

theorem lastStored?_append (key : String) (before after : List (SubnetId × SubnetConfig)) :
    lastStored? key (before ++ after) =
      (lastStored? key after).or (lastStored? key before) := by
  induction before with
  | nil => rw [List.nil_append, lastStored?, Option.or_none]
  | cons store before ih =>
      rw [List.cons_append, lastStored?, lastStored?, ih, Option.or_assoc]

/-- A store under another text makes no difference, whatever is stored before and after it. -/
theorem lastStored?_append_cons_of_ne {key : String} {id : SubnetId} (h : id.text ≠ key)
    (config : SubnetConfig) (before after : List (SubnetId × SubnetConfig)) :
    lastStored? key (before ++ (id, config) :: after) = lastStored? key (before ++ after) := by
  rw [lastStored?_append, lastStored?_append, lastStored?, if_neg h, Option.or_none]

/-! ## Resolving -/

theorem resolve_congr {r r' : Registry} {id : SubnetId} (senders : Option SenderSource)
    (h : r.getSubnet? id = r'.getSubnet? id) : r.resolve senders id = r'.resolve senders id := by
  unfold getSubnet? at h
  unfold resolve
  rw [h]

end SubnetRouter.Registry
