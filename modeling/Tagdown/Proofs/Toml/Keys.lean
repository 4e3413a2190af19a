/-
  Tagdown.Proofs.Toml.Keys

  No table of a document has a key twice (`distinctKeys_of_parse?`), so what a
  document says under a key is one value.

  Every way to change the items of a table keeps their keys distinct, and by
  `distinct_change?` so does a change in a table further down. Inline tables and
  documents are runs of such changes, from a table without items.
-/

import Mathlib.Data.List.Nodup
import Tagdown.Toml.Document

namespace Tagdown

/-! ## Distinct keys -/

/-- No table in the setting has a key twice. -/
inductive Setting.DistinctKeys : Setting → Prop where
  | bool (b : Bool) : DistinctKeys (.bool b)
  | int (i : Int) : DistinctKeys (.int i)
  | float (x : Binary64) : DistinctKeys (.float x)
  | text (t : Text) : DistinctKeys (.text t)
  | list {items : List Setting} (h : ∀ item ∈ items, item.DistinctKeys) :
      DistinctKeys (.list items)
  | table {entries : List (Text × Setting)} (hnodup : (entries.map Prod.fst).Nodup)
      (h : ∀ entry ∈ entries, entry.2.DistinctKeys) : DistinctKeys (.table entries)

namespace Toml

/-- No table in the value has a key twice. -/
inductive Value.DistinctKeys : Value → Prop where
  | bool (b : Bool) : DistinctKeys (.bool b)
  | int (i : Int) : DistinctKeys (.int i)
  | float (x : Binary64) : DistinctKeys (.float x)
  | text (t : Text) : DistinctKeys (.text t)
  | moment (t : Text) : DistinctKeys (.moment t)
  | list {items : List Value} (h : ∀ item ∈ items, item.DistinctKeys) :
      DistinctKeys (.list items)
  | table {entries : List (Text × Value)} (hnodup : (entries.map Prod.fst).Nodup)
      (h : ∀ entry ∈ entries, entry.2.DistinctKeys) : DistinctKeys (.table entries)

/-! ## Values as settings -/

namespace Value

mutual

/-- The setting of a value has the tables of the value. -/
theorem DistinctKeys.setting : ∀ {v : Value} {s : Setting}, v.DistinctKeys →
    v.toSetting? = some s → s.DistinctKeys
  | .bool b, _, _, h => by
    cases h
    exact .bool b
  | .int i, _, _, h => by
    cases h
    exact .int i
  | .float x, _, _, h => by
    cases h
    exact .float x
  | .text t, _, _, h => by
    cases h
    exact .text t
  | .moment t, _, _, h => by
    cases h
    exact .text t
  | .list items, _, .list hitems, h => by
    obtain ⟨out, hout, rfl⟩ := Option.map_eq_some_iff.mp h
    exact .list (distinctKeys_itemSettings? hitems hout)
  | .table [], _, _, h => by
    cases h
    exact .table .nil (by simp)
  | .table ((key, first) :: rest), s, .table hnodup hentries, h => by
    rw [toSetting?] at h
    split at h
    · -- A table for a moment is a text.
      unfold momentSetting? at h
      split at h
      · obtain ⟨t, -, rfl⟩ := Option.map_eq_some_iff.mp h
        exact .text t
      · cases h
    · obtain ⟨value, hvalue, h⟩ := Option.bind_eq_some_iff.mp h
      obtain ⟨others, hothers, h⟩ := Option.bind_eq_some_iff.mp h
      cases h
      rw [List.forall_mem_cons] at hentries
      have hfirst := hentries.1.setting hvalue
      obtain ⟨hkeys, hrest⟩ := distinctKeys_entrySettings? hentries.2 hothers
      refine .table ?_ (List.forall_mem_cons.mpr ⟨hfirst, hrest⟩)
      rwa [List.map_cons, hkeys]

theorem distinctKeys_itemSettings? : ∀ {items : List Value} {out : List Setting},
    (∀ item ∈ items, item.DistinctKeys) → itemSettings? items = some out →
    ∀ item ∈ out, item.DistinctKeys
  | [], _, _, h => by
    cases h
    simp
  | item :: rest, _, hitems, h => by
    obtain ⟨value, hvalue, h⟩ := Option.bind_eq_some_iff.mp h
    obtain ⟨others, hothers, h⟩ := Option.bind_eq_some_iff.mp h
    cases h
    rw [List.forall_mem_cons] at hitems
    have hfirst := hitems.1.setting hvalue
    exact List.forall_mem_cons.mpr ⟨hfirst, distinctKeys_itemSettings? hitems.2 hothers⟩

theorem distinctKeys_entrySettings? : ∀ {entries : List (Text × Value)}
    {out : List (Text × Setting)}, (∀ entry ∈ entries, entry.2.DistinctKeys) →
    entrySettings? entries = some out →
    out.map Prod.fst = entries.map Prod.fst ∧ ∀ entry ∈ out, entry.2.DistinctKeys
  | [], _, _, h => by
    cases h
    simp
  | (key, value) :: rest, _, hentries, h => by
    obtain ⟨setting, hsetting, h⟩ := Option.bind_eq_some_iff.mp h
    obtain ⟨others, hothers, h⟩ := Option.bind_eq_some_iff.mp h
    cases h
    rw [List.forall_mem_cons] at hentries
    have hfirst := hentries.1.setting hsetting
    obtain ⟨hkeys, hrest⟩ := distinctKeys_entrySettings? hentries.2 hothers
    exact ⟨by rw [List.map_cons, hkeys, List.map_cons], List.forall_mem_cons.mpr ⟨hfirst, hrest⟩⟩

end

end Value

/-! ## Tables that are being read -/

theorem valuesOf_eq_map (items : Items) : valuesOf items = items.map fun e => (e.1, e.2.toValue) := by
  induction items with
  | nil => rfl
  | cons entry items ih => rw [valuesOf, ih, List.map_cons]

theorem tablesOf_eq_map (tables : List Items) :
    tablesOf tables = tables.map fun items => .table (valuesOf items) := by
  induction tables with
  | nil => rfl
  | cons items tables ih => rw [tablesOf, ih, List.map_cons]

namespace Items

/-- No table in the items, nor their own, has a key twice. -/
def Distinct (items : Items) : Prop :=
  (Value.table (valuesOf items)).DistinctKeys

variable {items : Items} {key : Text} {item : Item}

theorem distinct_iff : items.Distinct ↔
    (items.map Prod.fst).Nodup ∧ ∀ e ∈ items, e.2.toValue.DistinctKeys := by
  have hkeys : (items.map fun e => (e.1, e.2.toValue)).map Prod.fst = items.map Prod.fst :=
    List.map_map
  rw [Distinct, valuesOf_eq_map]
  constructor
  · rintro (_ | _ | _ | _ | _ | _ | ⟨hnodup, h⟩)
    exact ⟨hkeys ▸ hnodup, fun e he => h _ (List.mem_map_of_mem he)⟩
  · rintro ⟨hnodup, h⟩
    refine .table (hkeys ▸ hnodup) fun entry hentry => ?_
    obtain ⟨e, he, rfl⟩ := List.mem_map.mp hentry
    exact h e he

theorem distinct_nil : Distinct [] :=
  .table .nil (by simp [valuesOf])

theorem mem_of_get? (h : get? key items = some item) : (key, item) ∈ items := by
  induction items with
  | nil => cases h
  | cons entry items ih =>
    rw [get?] at h
    split at h
    · rename_i heq
      cases h
      exact heq ▸ List.mem_cons_self
    · exact List.mem_cons_of_mem _ (ih h)

theorem mem_set {e : Text × Item} (h : e ∈ set key item items) : e = (key, item) ∨ e ∈ items := by
  induction items with
  | nil => exact .inl (List.mem_singleton.mp h)
  | cons entry items ih =>
    rw [set] at h
    split at h
    · exact (List.mem_cons.mp h).imp_right (List.mem_cons_of_mem _)
    · rcases List.mem_cons.mp h with rfl | h
      · exact .inr List.mem_cons_self
      · exact (ih h).imp_right (List.mem_cons_of_mem _)

/-- A value under a key leaves distinct keys distinct. -/
theorem Distinct.set (h : items.Distinct) (hitem : item.toValue.DistinctKeys) :
    (set key item items).Distinct := by
  rw [distinct_iff] at h ⊢
  refine ⟨?_, fun e he => ?_⟩
  · -- The key is new only if no entry has it, and then it goes to the end.
    replace h := h.1
    induction items with
    | nil => exact List.nodup_singleton key
    | cons entry items ih =>
      rw [List.map_cons, List.nodup_cons] at h
      rw [Items.set]
      split
      · rename_i heq
        exact List.nodup_cons.mpr ⟨heq ▸ h.1, h.2⟩
      · rename_i hne
        refine List.nodup_cons.mpr ⟨fun hmem => ?_, ih h.2⟩
        obtain ⟨e, he, heq⟩ := List.mem_map.mp hmem
        rcases mem_set he with rfl | he
        · exact hne heq.symm
        · exact h.1 (heq ▸ List.mem_map_of_mem he)
  · rcases mem_set he with rfl | he
    · exact hitem
    · exact h.2 e he

/-- The table under a key has distinct keys, like every table in the items. -/
theorem Distinct.get? (h : items.Distinct) (hget : get? key items = some item) :
    item.toValue.DistinctKeys :=
  (distinct_iff.mp h).2 _ (mem_of_get? hget)

/-- A change that keeps keys distinct does so further down. -/
theorem distinct_change? {made : Origin} {change : Origin → Items → Option Items}
    (hchange : ∀ {origin items out}, items.Distinct → change origin items = some out → out.Distinct)
    {path : List Text} {origin : Origin} {out : Items} (h : items.Distinct)
    (hout : change? made change path origin items = some out) : out.Distinct := by
  induction path generalizing origin items out with
  | nil => exact hchange h hout
  | cons key path ih =>
    rw [change?] at hout
    split at hout
    · -- A missing table is made, from no items.
      obtain ⟨inner, hinner, hout⟩ := Option.bind_eq_some_iff.mp hout
      cases hout
      exact h.set (ih distinct_nil hinner)
    · rename_i origin inner hget
      split at hout
      · cases hout
      · obtain ⟨changed, hchanged, hout⟩ := Option.bind_eq_some_iff.mp hout
        cases hout
        exact h.set (ih (h.get? hget) hchanged)
    · -- The last table of an array of tables is changed, the others stay.
      rename_i earlier latest hget
      obtain ⟨changed, hchanged, hout⟩ := Option.bind_eq_some_iff.mp hout
      cases hout
      have hseries := h.get? hget
      rw [Item.toValue] at hseries
      cases hseries with
      | list hitems =>
        rw [List.forall_mem_append, List.forall_mem_singleton] at hitems
        apply h.set
        rw [Item.toValue]
        exact .list (List.forall_mem_append.mpr
          ⟨hitems.1, List.forall_mem_singleton.mpr (ih hitems.2 hchanged)⟩)
    · cases hout

theorem Distinct.insert? {path : List Text} {value : Value} {out : Items} (h : items.Distinct)
    (hvalue : value.DistinctKeys) (hout : items.insert? path key value = some out) :
    out.Distinct := by
  refine distinct_change? (fun {origin items out} hitems hchanged => ?_) h hout
  split at hchanged
  · cases hchanged
  · split at hchanged
    · cases hchanged
    · cases hchanged
      exact hitems.set hvalue

theorem Distinct.insertUnder? {header path : List Text} {value : Value} {out : Items}
    (h : items.Distinct) (hvalue : value.DistinctKeys)
    (hout : items.insertUnder? header path key value = some out) : out.Distinct :=
  distinct_change? (fun hitems hchanged => hitems.insert? hvalue hchanged) h hout

theorem Distinct.openTable? {path : List Text} {out : Items} (h : items.Distinct)
    (hout : items.openTable? path key = some out) : out.Distinct := by
  refine distinct_change? (fun {origin items out} hitems hchanged => ?_) h hout
  split at hchanged
  · cases hchanged
    exact hitems.set distinct_nil
  · -- The table that is there moves behind the items of other keys.
    rename_i inner hget
    cases hchanged
    have hinner := hitems.get? hget
    rw [distinct_iff] at hitems ⊢
    have hsublist : (erase key items).Sublist items := List.filter_sublist
    refine ⟨?_, List.forall_mem_append.mpr ⟨fun e he => hitems.2 e (hsublist.subset he),
      List.forall_mem_singleton.mpr hinner⟩⟩
    rw [List.map_append, List.map_singleton, List.nodup_append]
    refine ⟨hitems.1.sublist (hsublist.map _), List.nodup_singleton key, ?_⟩
    rintro other hother _ hkey rfl
    obtain rfl := List.mem_singleton.mp hkey
    obtain ⟨e, he, heq⟩ := List.mem_map.mp hother
    have hne := (List.mem_filter.mp he).2
    rw [heq] at hne
    simp at hne
  · cases hchanged

theorem Distinct.openSeries? {path : List Text} {out : Items} (h : items.Distinct)
    (hout : items.openSeries? path key = some out) : out.Distinct := by
  refine distinct_change? (fun {origin items out} hitems hchanged => ?_) h hout
  split at hchanged
  · cases hchanged
    refine hitems.set (.list ?_)
    exact List.forall_mem_singleton.mpr distinct_nil
  · rename_i earlier latest hget
    cases hchanged
    have hseries := hitems.get? hget
    rw [Item.toValue] at hseries
    cases hseries with
    | list hold =>
      apply hitems.set
      rw [Item.toValue, tablesOf_eq_map, List.map_append, ← tablesOf_eq_map]
      exact .list (List.forall_mem_append.mpr ⟨hold, List.forall_mem_singleton.mpr distinct_nil⟩)
  · cases hchanged

end Items

/-! ## Reading -/

theorem distinctKeys_signedInt? {negative : Bool} {size : Nat} {v : Value}
    (h : signedInt? negative size = some v) : v.DistinctKeys := by
  unfold signedInt? at h
  split at h <;> split at h <;> cases h <;> exact .int _

theorem distinctKeys_readNumber? {t : Text} {v : Value} {rest : Text}
    (h : readNumber? t = some (v, rest)) : v.DistinctKeys := by
  have hbased : ∀ {base t}, readBased? base t = some (v, rest) → v.DistinctKeys := by
    intro base t h
    obtain ⟨⟨digits, after⟩, -, h⟩ := Option.bind_eq_some_iff.mp h
    obtain ⟨value, hvalue, h⟩ := Option.bind_eq_some_iff.mp h
    cases h
    exact distinctKeys_signedInt? hvalue
  have hdecimal : ∀ {negative t}, readDecimal? negative t = some (v, rest) → v.DistinctKeys := by
    intro negative t h
    obtain ⟨⟨whole, after⟩, -, h⟩ := Option.bind_eq_some_iff.mp h
    dsimp only at h
    -- With a point or without one, the same follows.
    split at h
    all_goals
      obtain ⟨⟨fraction, after⟩, -, h⟩ := Option.bind_eq_some_iff.mp h
      obtain ⟨⟨exponent, after⟩, -, h⟩ := Option.bind_eq_some_iff.mp h
      dsimp only at h
      split at h
      · obtain ⟨value, hvalue, h⟩ := Option.bind_eq_some_iff.mp h
        cases h
        exact distinctKeys_signedInt? hvalue
      · split at h
        · cases h
        · cases h
          exact .float _
  unfold readNumber? at h
  split at h
  · exact hbased h
  · exact hbased h
  · exact hbased h
  · dsimp only at h
    split at h
    · cases h
      exact .float _
    · cases h
      exact .float _
    · exact hdecimal h

theorem distinctKeys_readScalar? {t : Text} {v : Value} {rest : Text}
    (h : readScalar? t = some (v, rest)) : v.DistinctKeys := by
  have hmap : ∀ {α : Type} {f : α → Value × Text} {o : Option α}, o.map f = some (v, rest) →
      ∃ a, f a = (v, rest) := by
    intro α f o h
    obtain ⟨a, -, ha⟩ := Option.map_eq_some_iff.mp h
    exact ⟨a, ha⟩
  unfold readScalar? at h
  split at h
  · obtain ⟨_, h⟩ := hmap h
    cases h
    exact .text _
  · obtain ⟨_, h⟩ := hmap h
    cases h
    exact .text _
  · obtain ⟨_, h⟩ := hmap h
    cases h
    exact .bool _
  · obtain ⟨_, h⟩ := hmap h
    cases h
    exact .bool _
  · split at h
    · obtain ⟨_, h⟩ := hmap h
      cases h
      exact .moment _
    · exact distinctKeys_readNumber? h

/-- Whatever is read as a value, as the items of an array or as the pairs of an inline
    table has distinct keys. -/
theorem distinctKeys_read (fuel : Nat) :
    (∀ {depth t v rest}, readValue? fuel depth t = some (v, rest) → v.DistinctKeys) ∧
    (∀ {depth t items rest}, readItems? fuel depth t = some (items, rest) →
      ∀ item ∈ items, item.DistinctKeys) ∧
    (∀ {depth items t out rest}, Items.Distinct items →
      readPairs? fuel depth items t = some (out, rest) → out.Distinct) := by
  -- The three readers call each other with one fuel less.
  induction fuel with
  | zero =>
    refine ⟨fun h => ?_, fun h => ?_, fun _ h => ?_⟩ <;> cases h
  | succ fuel ih =>
    obtain ⟨hvalue, hitems, hpairs⟩ := ih
    refine ⟨fun {depth t v rest} h => ?_, fun {depth t items rest} h => ?_,
      fun {depth items t out rest} hdistinct h => ?_⟩
    · unfold readValue? at h
      split at h
      · split at h
        · obtain ⟨⟨items, after⟩, hread, h⟩ := Option.bind_eq_some_iff.mp h
          cases h
          exact .list (hitems hread)
        · cases h
      · split at h
        · split at h
          · cases h
            exact Items.distinct_nil
          · obtain ⟨⟨items, after⟩, hread, h⟩ := Option.bind_eq_some_iff.mp h
            cases h
            exact hpairs Items.distinct_nil hread
        · cases h
      · exact distinctKeys_readScalar? h
    · rw [readItems?] at h
      split at h
      · cases h
        simp
      · obtain ⟨⟨item, after⟩, hread, h⟩ := Option.bind_eq_some_iff.mp h
        dsimp only at h
        split at h
        · obtain ⟨⟨others, after⟩, hothers, h⟩ := Option.bind_eq_some_iff.mp h
          cases h
          exact List.forall_mem_cons.mpr ⟨hvalue hread, hitems hothers⟩
        · cases h
          exact List.forall_mem_singleton.mpr (hvalue hread)
        · cases h
    · rw [readPairs?] at h
      obtain ⟨⟨⟨path, key⟩, after⟩, -, h⟩ := Option.bind_eq_some_iff.mp h
      dsimp only at h
      split at h
      · obtain ⟨⟨value, after⟩, hread, h⟩ := Option.bind_eq_some_iff.mp h
        obtain ⟨changed, hchanged, h⟩ := Option.bind_eq_some_iff.mp h
        have hnext := hdistinct.insert? (hvalue hread) hchanged
        dsimp only at h
        split at h
        · exact hpairs hnext h
        · cases h
          exact hnext
        · cases h
      · cases h

/-! ## Documents -/

variable {d d' : Draft} {t rest : Text}

theorem distinct_readPair? (h : d.items.Distinct) (hread : readPair? d t = some (d', rest)) :
    d'.items.Distinct := by
  obtain ⟨⟨⟨path, key⟩, after⟩, -, hread⟩ := Option.bind_eq_some_iff.mp hread
  dsimp only at hread
  split at hread
  · obtain ⟨⟨value, after⟩, hvalue, hread⟩ := Option.bind_eq_some_iff.mp hread
    obtain ⟨after, -, hread⟩ := Option.bind_eq_some_iff.mp hread
    obtain ⟨items, hitems, hread⟩ := Option.bind_eq_some_iff.mp hread
    cases hread
    exact h.insertUnder? ((distinctKeys_read _).1 hvalue) hitems
  · cases hread

theorem distinct_readHeader? (h : d.items.Distinct) (hread : readHeader? d t = some (d', rest)) :
    d'.items.Distinct := by
  unfold readHeader? at hread
  split at hread
  · obtain ⟨⟨⟨path, key⟩, after⟩, -, hread⟩ := Option.bind_eq_some_iff.mp hread
    dsimp only at hread
    split at hread
    · obtain ⟨after, -, hread⟩ := Option.bind_eq_some_iff.mp hread
      obtain ⟨items, hitems, hread⟩ := Option.bind_eq_some_iff.mp hread
      cases hread
      exact h.openSeries? hitems
    · cases hread
  · obtain ⟨⟨⟨path, key⟩, after⟩, -, hread⟩ := Option.bind_eq_some_iff.mp hread
    dsimp only at hread
    split at hread
    · obtain ⟨after, -, hread⟩ := Option.bind_eq_some_iff.mp hread
      obtain ⟨items, hitems, hread⟩ := Option.bind_eq_some_iff.mp hread
      cases hread
      exact h.openTable? hitems
    · cases hread

theorem distinct_readLines? {fuel : Nat} (h : d.items.Distinct)
    (hread : readLines? fuel d t = some d') : d'.items.Distinct := by
  induction fuel generalizing d t with
  | zero => cases hread
  | succ fuel ih =>
    rw [readLines?] at hread
    split at hread
    · cases hread
      exact h
    · obtain ⟨⟨next, after⟩, hnext, hread⟩ := Option.bind_eq_some_iff.mp hread
      exact ih (distinct_readHeader? h hnext) hread
    · obtain ⟨⟨next, after⟩, hnext, hread⟩ := Option.bind_eq_some_iff.mp hread
      exact ih (distinct_readPair? h hnext) hread

/-- The settings of a document have distinct keys. -/
theorem distinctKeys_of_parse? {entries : Setting.Entries} (h : parse? t = some entries) :
    (Setting.table entries).DistinctKeys := by
  obtain ⟨d, hd, h⟩ := Option.bind_eq_some_iff.mp h
  obtain ⟨setting, hsetting, h⟩ := Option.bind_eq_some_iff.mp h
  have hitems : d.items.Distinct := distinct_readLines? Items.distinct_nil hd
  have hdistinct := Value.DistinctKeys.setting hitems hsetting
  cases setting with
  | table entries =>
    cases h
    exact hdistinct
  | _ => cases h

end Toml
end Tagdown
