import Restic.ExtendedAttributes

/-!
# What the restore is for

A file's extended attributes as the restore relies on them: named values, no two names
`EqualFold`-equal, no value empty. Writing an attribute replaces every stored one of an
`EqualFold`-equal name, and an empty value (a nil slice included) clears it, which is how the
code's comment "clear old unexpected xattrs by setting them to an empty value" reads;
`SetFileEA` writes its list in order. `EAStore` carries the two conditions as a field, and
every write keeps them (`writeEA_ok`).

Over a file whose calls succeed (`storeApi`), a restore leaves the file exactly as writing the
same attributes onto a file with none would (`restoreExtendedAttributes_store`): the old
attributes are all overwritten or cleared, and none of the clearing entries touches a restored
one. A restore thus reports no error and sets the attributes rather than merging into them,
and a second restore changes nothing (`Node.restoreExtendedAttributes_overwrites`). So a node filled from one file
and restored onto another gives that file the first one's attributes (`fill_restore_roundTrip`),
except that a node with no attributes restores nothing and leaves the target's as they were. The other way round, a node whose attributes a file can
hold, restored and filled again, gives back exactly its attributes (`restore_fill_roundTrip`).
-/

namespace Restic

open Strings

variable (simpleFold : Rune → Rune)

/-- Writing one attribute: every stored attribute of an `EqualFold`-equal name goes, and the
attribute is stored, under its name as written, unless its value is empty. -/
def writeEA (store : List Fs.ExtendedAttribute) (ea : Fs.ExtendedAttribute) :
    List Fs.ExtendedAttribute :=
  store.filter (fun x => !equalFold simpleFold x.name ea.name) ++
    if (ea.value.getD []).isEmpty then [] else [ea]

/-- A `SetFileEA` of `eas`: each written in turn. -/
def writeEAs (store eas : List Fs.ExtendedAttribute) : List Fs.ExtendedAttribute :=
  eas.foldl (writeEA simpleFold) store

/-- What a file can hold: names pairwise apart under `EqualFold`, and no empty value. -/
def StoreOK (eas : List Fs.ExtendedAttribute) : Prop :=
  eas.Pairwise (fun a b => equalFold simpleFold a.name b.name = false) ∧
    ∀ ea ∈ eas, ea.value.getD [] ≠ []

instance : DecidablePred (StoreOK simpleFold) := fun _ =>
  inferInstanceAs (Decidable (_ ∧ _))

/-- The extended attributes of one file. -/
structure EAStore where
  eas : List Fs.ExtendedAttribute
  ok : StoreOK simpleFold eas

@[ext] theorem EAStore.ext {s t : EAStore simpleFold} (h : s.eas = t.eas) : s = t := by
  cases s; cases t; cases h; rfl

theorem writeEA_ok {store : List Fs.ExtendedAttribute} (h : StoreOK simpleFold store)
    (ea : Fs.ExtendedAttribute) : StoreOK simpleFold (writeEA simpleFold store ea) := by
  obtain ⟨hd, hv⟩ := h
  have hfd := hd.filter fun x => !equalFold simpleFold x.name ea.name
  unfold writeEA
  split_ifs with he
  · rw [List.append_nil]
    exact ⟨hfd, fun x hx => hv x (List.mem_of_mem_filter hx)⟩
  · refine ⟨List.pairwise_append.mpr ⟨hfd, List.pairwise_singleton _ _, ?_⟩, ?_⟩
    · intro x hx y hy
      rw [List.mem_singleton.mp hy]
      simpa using (List.mem_filter.mp hx).2
    · intro x hx
      rcases List.mem_append.mp hx with hx | hx
      · exact hv x (List.mem_of_mem_filter hx)
      · rw [List.mem_singleton.mp hx]
        simpa using he

/-- A write, on a file. -/
def EAStore.write (st : EAStore simpleFold) (ea : Fs.ExtendedAttribute) : EAStore simpleFold :=
  ⟨writeEA simpleFold st.eas ea, writeEA_ok simpleFold st.ok ea⟩

/-- A `SetFileEA`, on a file. -/
def EAStore.setEAs (st : EAStore simpleFold) (eas : List Fs.ExtendedAttribute) :
    EAStore simpleFold :=
  eas.foldl (EAStore.write simpleFold) st

theorem EAStore.setEAs_eas : ∀ (st : EAStore simpleFold) (eas : List Fs.ExtendedAttribute),
    (st.setEAs simpleFold eas).eas = writeEAs simpleFold st.eas eas
  | _, [] => rfl
  | st, ea :: eas => EAStore.setEAs_eas (st.write simpleFold ea) eas

/-- A file without extended attributes. -/
def EAStore.empty : EAStore simpleFold := ⟨[], List.Pairwise.nil, by simp⟩

/-- A file whose attribute calls all succeed: the handle is `1`, `GetFileEA` lists what the
file holds and `SetFileEA` writes into it. Names are kept as written, so this is a file system
that preserves the case of EA names, which the round trips below assume: one that upcases them
would give back different names. -/
def storeApi : EAApi (EAStore simpleFold) where
  openHandleForEA _ _ _ _ := (1, none)
  getFileEA st _ := (st.eas, none)
  setFileEA st _ eas := (st.setEAs simpleFold eas, none)

/-! ## Writes -/

section Writes

variable {simpleFold}

@[simp] theorem writeEAs_nil (store : List Fs.ExtendedAttribute) :
    writeEAs simpleFold store [] = store := rfl

@[simp] theorem writeEAs_cons (store : List Fs.ExtendedAttribute) (ea : Fs.ExtendedAttribute)
    (eas : List Fs.ExtendedAttribute) :
    writeEAs simpleFold store (ea :: eas) = writeEAs simpleFold (writeEA simpleFold store ea) eas :=
  rfl

theorem writeEAs_append (store eas eas' : List Fs.ExtendedAttribute) :
    writeEAs simpleFold store (eas ++ eas') =
      writeEAs simpleFold (writeEAs simpleFold store eas) eas' :=
  List.foldl_append _ _ _ _

theorem mem_writeEA {store : List Fs.ExtendedAttribute} {ea x : Fs.ExtendedAttribute}
    (hx : x ∈ writeEA simpleFold store ea) : x ∈ store ∨ x = ea := by
  unfold writeEA at hx
  split_ifs at hx
  · rw [List.append_nil] at hx
    exact .inl (List.mem_of_mem_filter hx)
  · rcases List.mem_append.mp hx with hx | hx
    · exact .inl (List.mem_of_mem_filter hx)
    · exact .inr (List.mem_singleton.mp hx)

theorem mem_writeEAs : ∀ (store eas : List Fs.ExtendedAttribute) {x : Fs.ExtendedAttribute},
    x ∈ writeEAs simpleFold store eas → x ∈ store ∨ x ∈ eas
  | _, [], _, hx => .inl hx
  | store, ea :: eas, x, hx => by
    rcases mem_writeEAs (writeEA simpleFold store ea) eas hx with hx | hx
    · rcases mem_writeEA hx with hx | rfl
      · exact .inl hx
      · exact .inr (List.mem_cons_self x eas)
    · exact .inr (List.mem_cons_of_mem ea hx)

/-- Stored attributes each matched by a name written later are all gone, whatever is stored
after them. -/
theorem writeEAs_append_of_matched : ∀ {olds news eas : List Fs.ExtendedAttribute},
    (∀ x ∈ olds, ∃ e ∈ eas, equalFold simpleFold x.name e.name = true) →
    writeEAs simpleFold (olds ++ news) eas = writeEAs simpleFold news eas
  | [], _, _, _ => rfl
  | x :: _, _, [], h => by obtain ⟨e, he, -⟩ := h x (List.mem_cons_self _ _); cases he
  | olds, news, e :: eas, h => by
    have hw : writeEA simpleFold (olds ++ news) e =
        olds.filter (fun x => !equalFold simpleFold x.name e.name) ++ writeEA simpleFold news e := by
      simp [writeEA, List.filter_append]
    rw [writeEAs_cons, writeEAs_cons, hw]
    refine writeEAs_append_of_matched fun x hx => ?_
    obtain ⟨hx, hne⟩ := List.mem_filter.mp hx
    obtain ⟨e', he', hm⟩ := h x hx
    rcases List.mem_cons.mp he' with rfl | he'
    · simp [hm] at hne
    · exact ⟨e', he', hm⟩

theorem writeEAs_of_cleared : ∀ {store app : List Fs.ExtendedAttribute},
    (∀ a ∈ app, a.value = none ∧ ∀ x ∈ store, equalFold simpleFold x.name a.name = false) →
    writeEAs simpleFold store app = store
  | _, [], _ => rfl
  | store, a :: app, h => by
    obtain ⟨hn, hx⟩ := h a (List.mem_cons_self _ _)
    have hw : writeEA simpleFold store a = store := by
      simp only [writeEA, hn, Option.getD_none, List.isEmpty_nil, if_true, List.append_nil]
      exact List.filter_eq_self.mpr fun x hx' => by simp [hx x hx']
    rw [writeEAs_cons, hw]
    exact writeEAs_of_cleared fun a' ha' => h a' (List.mem_cons_of_mem a ha')

theorem writeEAs_of_ok : ∀ {acc eas : List Fs.ExtendedAttribute},
    StoreOK simpleFold (acc ++ eas) → writeEAs simpleFold acc eas = acc ++ eas
  | _, [], _ => by simp
  | acc, e :: eas, ⟨hd, hv⟩ => by
    have he : e.value.getD [] ≠ [] := hv e (by simp)
    have hw : writeEA simpleFold acc e = acc ++ [e] := by
      simp only [writeEA, List.isEmpty_iff, he, if_false]
      congr 1
      refine List.filter_eq_self.mpr fun x hx => ?_
      have := (List.pairwise_append.mp hd).2.2 x hx e (List.mem_cons_self e eas)
      simp [this]
    have hok : StoreOK simpleFold ((acc ++ [e]) ++ eas) := by
      rw [List.append_assoc, List.singleton_append]; exact ⟨hd, hv⟩
    rw [writeEAs_cons, hw, writeEAs_of_ok hok, List.append_assoc, List.singleton_append]

end Writes

/-! ## The restore on a file -/

/-- A restore leaves a file as writing the same attributes onto a file without any would. -/
theorem restoreExtendedAttributes_store (st : EAStore simpleFold) (nodeType path : String)
    (eas : List Fs.ExtendedAttribute) :
    restoreExtendedAttributes simpleFold (storeApi simpleFold) st nodeType path eas =
      ((EAStore.empty simpleFold).setEAs simpleFold eas, none) := by
  rw [restoreExtendedAttributes_eq simpleFold eas Nat.one_ne_zero rfl rfl]
  obtain ⟨app, heq, hc, hv, -⟩ := clearOldEAs_spec simpleFold st.eas eas
  simp only [storeApi, Prod.map, id, Option.map_none', heq, Prod.mk.injEq, and_true]
  ext1
  rw [EAStore.setEAs_eas, EAStore.setEAs_eas]
  have matched : ∀ x ∈ st.eas, ∃ e ∈ eas ++ app, equalFold simpleFold x.name e.name = true :=
    fun x hx => (hv x hx).imp fun e ⟨he, hm⟩ => ⟨he, by rw [equalFold_comm, hm]⟩
  have cleared : ∀ a ∈ app, a.value = none ∧
      ∀ x ∈ writeEAs simpleFold [] eas, equalFold simpleFold x.name a.name = false := by
    intro a ha
    obtain ⟨hn, o, -, hname, hno⟩ := hc a ha
    refine ⟨hn, fun x hx => ?_⟩
    rcases mem_writeEAs [] eas hx with hx | hx
    · cases hx
    · rw [hname]; exact hno x hx
  calc writeEAs simpleFold st.eas (eas ++ app)
      = writeEAs simpleFold (st.eas ++ []) (eas ++ app) := by rw [List.append_nil]
    _ = writeEAs simpleFold (writeEAs simpleFold [] eas) app := by
      rw [writeEAs_append_of_matched matched, writeEAs_append]
    _ = writeEAs simpleFold [] eas := writeEAs_of_cleared cleared

theorem fillExtendedAttributes_store (st : EAStore simpleFold) (node : Node) (path : String) :
    (Node.fillExtendedAttributes (storeApi simpleFold) st node path).1 =
      { node with extendedAttributes := node.extendedAttributes ++
          st.eas.map fun attr => (⟨attr.name, attr.value⟩ : ExtendedAttribute) } := by
  by_cases hs : st.eas = [] <;> simp [Node.fillExtendedAttributes, storeApi, hs]

/-- A node filled from `src` and restored onto `dst` leaves `dst` holding `src`'s attributes,
unless `src` has none: the node then has none either, and `dst` keeps its own. -/
theorem fill_restore_roundTrip (src dst : EAStore simpleFold) (node : Node) (path path' : String)
    (hnode : node.extendedAttributes = []) :
    (Node.restoreExtendedAttributes simpleFold (storeApi simpleFold) dst
        (Node.fillExtendedAttributes (storeApi simpleFold) src node path).1 path').1 =
      if src.eas = [] then dst else src := by
  rw [fillExtendedAttributes_store, hnode, List.nil_append]
  by_cases hs : src.eas = []
  · simp [Node.restoreExtendedAttributes, hs]
  · have hlen : src.eas.length > 0 := List.length_pos.mpr hs
    simp only [Node.restoreExtendedAttributes, List.length_map, hlen, if_true, if_neg hs,
      List.map_map, Function.comp_def, restoreExtendedAttributes_store]
    ext1
    rw [EAStore.setEAs_eas, List.map_id' src.eas]
    exact writeEAs_of_ok (by simpa using src.ok)

theorem fill_restore_roundTrip_replaces :
    ([] : List ExtendedAttribute) = [] ∧
      (Node.restoreExtendedAttributes id (storeApi id)
          ⟨[⟨[0x61], some [2]⟩, ⟨[0x42], some [3]⟩], by decide⟩
          (Node.fillExtendedAttributes (storeApi id) ⟨[⟨[0x41], some [1]⟩], by decide⟩
            ⟨"file", [], []⟩ "src").1 "dst").1 =
        if ([⟨[0x41], some [1]⟩] : List Fs.ExtendedAttribute) = [] then
          ⟨[⟨[0x61], some [2]⟩, ⟨[0x42], some [3]⟩], by decide⟩
        else ⟨[⟨[0x41], some [1]⟩], by decide⟩ :=
  ⟨rfl, fill_restore_roundTrip id _ _ ⟨"file", [], []⟩ "src" "dst" rfl⟩

/-- A node whose attributes a file can hold, restored onto any file and filled again into a node
without attributes, gives back exactly its attributes; a node with none leaves the file's. -/
theorem restore_fill_roundTrip (dst : EAStore simpleFold) (node fresh : Node) (path path' : String)
    (hfresh : fresh.extendedAttributes = [])
    (hok : StoreOK simpleFold
      (node.extendedAttributes.map fun attr => (⟨attr.name, attr.value⟩ : Fs.ExtendedAttribute))) :
    (Node.fillExtendedAttributes (storeApi simpleFold)
        (Node.restoreExtendedAttributes simpleFold (storeApi simpleFold) dst node path).1 fresh
        path').1.extendedAttributes =
      if node.extendedAttributes = [] then
        dst.eas.map fun attr => (⟨attr.name, attr.value⟩ : ExtendedAttribute)
      else node.extendedAttributes := by
  rw [fillExtendedAttributes_store, hfresh, List.nil_append]
  by_cases hn : node.extendedAttributes = []
  · simp [Node.restoreExtendedAttributes, hn]
  · have hlen : node.extendedAttributes.length > 0 := List.length_pos.mpr hn
    simp only [Node.restoreExtendedAttributes, hlen, if_true, if_neg hn,
      restoreExtendedAttributes_store, EAStore.setEAs_eas]
    dsimp only [EAStore.empty]
    rw [writeEAs_of_ok (by simpa using hok), List.nil_append, List.map_map]
    exact List.map_id' _

theorem restore_fill_roundTrip_keeps :
    ([] : List ExtendedAttribute) = [] ∧
      StoreOK id (([⟨[0x41], some [1]⟩, ⟨[0x62], some [2]⟩] : List ExtendedAttribute).map
        fun attr => (⟨attr.name, attr.value⟩ : Fs.ExtendedAttribute)) ∧
      (Node.fillExtendedAttributes (storeApi id)
          (Node.restoreExtendedAttributes id (storeApi id) ⟨[⟨[0x61], some [3]⟩], by decide⟩
            ⟨"file", [⟨[0x41], some [1]⟩, ⟨[0x62], some [2]⟩], []⟩ "dst").1
          ⟨"file", [], []⟩ "dst").1.extendedAttributes =
        if ([⟨[0x41], some [1]⟩, ⟨[0x62], some [2]⟩] : List ExtendedAttribute) = [] then
          ([⟨[0x61], some [3]⟩] : List Fs.ExtendedAttribute).map
            fun attr => (⟨attr.name, attr.value⟩ : ExtendedAttribute)
        else [⟨[0x41], some [1]⟩, ⟨[0x62], some [2]⟩] :=
  ⟨rfl, by decide,
    restore_fill_roundTrip id _ ⟨"file", [⟨[0x41], some [1]⟩, ⟨[0x62], some [2]⟩], []⟩
      ⟨"file", [], []⟩ "dst" "dst" rfl (by decide)⟩

end Restic
