import Restic.EqualFold

/-!
# Restoring extended attributes

`restoreExtendedAttributes` must hand the Windows API every attribute in one call, so before it
writes the node's attributes it reads the file's current ones and appends, with a nil value,
each old one whose name no entry `EqualFold`s. The inner `range` over `eas` is re-entered for
every old attribute and so sees what was appended before it.

`clearOldEAs_spec` is the loop's law, proved by induction over the old attributes with the
accumulator left free: the list keeps `eas` as its prefix, every appended entry is a nil-valued
copy of an old name no restored name matches, every old name is matched, and no two appended
names match each other. `restoreExtendedAttributes_setFileEA` carries it to the list the
function passes to `SetFileEA`.
-/

namespace Restic

/-- An error, as the text Go's `error` prints. -/
abbrev Error := String

/-- A `windows.Handle`; `0` is no handle. -/
abbrev Handle := Nat

namespace Fs

/-- `fs.ExtendedAttribute`. A `none` value is Go's nil slice. -/
structure ExtendedAttribute where
  name : GoString
  value : Option (List UInt8)
  deriving DecidableEq, Repr

end Fs

/-- `restic.ExtendedAttribute`, as a node stores it. -/
structure ExtendedAttribute where
  name : GoString
  value : Option (List UInt8)
  deriving DecidableEq, Repr

/-- A `GenericAttributeType`, the key of a generic attribute. -/
abbrev GenericAttributeType := String

/-- The fields of a `Node` the attribute code reads. `genericAttributes` is Go's map from
attribute type to raw JSON, as its list of entries. -/
structure Node where
  type : String
  extendedAttributes : List ExtendedAttribute
  genericAttributes : List (GenericAttributeType × List UInt8)
  deriving DecidableEq, Repr

/-- The `fs` calls on extended attributes, each answering with a result and an error as Go's do,
against a world `W`: what Windows does in them is not part of this repository. -/
structure EAApi (W : Type) where
  openHandleForEA : W → String → String → Bool → Handle × Option Error
  getFileEA : W → Handle → List Fs.ExtendedAttribute × Option Error
  setFileEA : W → Handle → List Fs.ExtendedAttribute → W × Option Error

variable (simpleFold : Rune → Rune)

open Strings

/-! ## The clearing loop -/

/-- The inner loop: whether an entry of `eas` has a name `EqualFold` to `oldEA`'s. -/
def eaFound (eas : List Fs.ExtendedAttribute) (oldEA : Fs.ExtendedAttribute) : Bool :=
  eas.any fun ea => equalFold simpleFold ea.name oldEA.name

/-- One round over `oldEAs`: an old attribute nothing matches is appended with a nil value. -/
def clearStep (eas : List Fs.ExtendedAttribute) (oldEA : Fs.ExtendedAttribute) :
    List Fs.ExtendedAttribute :=
  if eaFound simpleFold eas oldEA then eas else eas ++ [⟨oldEA.name, none⟩]

/-- `for _, oldEA := range oldEAs { ... }` over the growing `eas`. -/
def clearOldEAs (eas oldEAs : List Fs.ExtendedAttribute) : List Fs.ExtendedAttribute :=
  oldEAs.foldl (clearStep simpleFold) eas

theorem eaFound_iff {eas : List Fs.ExtendedAttribute} {oldEA : Fs.ExtendedAttribute} :
    eaFound simpleFold eas oldEA = true ↔ ∃ ea ∈ eas, equalFold simpleFold ea.name oldEA.name = true :=
  List.any_eq_true

/-- A round either finds the old name and leaves the list, or finds no entry matching it and
appends its nil-valued copy. -/
theorem clearStep_cases (eas : List Fs.ExtendedAttribute) (oldEA : Fs.ExtendedAttribute) :
    ((∃ ea ∈ eas, equalFold simpleFold ea.name oldEA.name = true) ∧
        clearStep simpleFold eas oldEA = eas) ∨
      ((∀ ea ∈ eas, equalFold simpleFold ea.name oldEA.name = false) ∧
        clearStep simpleFold eas oldEA = eas ++ [⟨oldEA.name, none⟩]) := by
  cases hf : eaFound simpleFold eas oldEA
  · exact .inr ⟨by simpa [eaFound] using hf, by simp [clearStep, hf]⟩
  · exact .inl ⟨(eaFound_iff simpleFold).mp hf, by simp [clearStep, hf]⟩

/-- What the loop appends to `acc` over `oldEAs`: nil-valued copies of old names no entry of `acc`
matched, matching each other pairwise in neither order, and together with `acc` matching every
old name. -/
structure Appended (acc oldEAs appended : List Fs.ExtendedAttribute) : Prop where
  cleared : ∀ a ∈ appended, a.value = none ∧ ∃ o ∈ oldEAs, a.name = o.name ∧
    ∀ ea ∈ acc, equalFold simpleFold ea.name o.name = false
  covered : ∀ o ∈ oldEAs, ∃ e ∈ acc ++ appended, equalFold simpleFold e.name o.name = true
  distinct : appended.Pairwise fun a b => equalFold simpleFold a.name b.name = false

variable {simpleFold}

theorem Appended.nil (acc : List Fs.ExtendedAttribute) : Appended simpleFold acc [] [] :=
  ⟨by simp, by simp, List.Pairwise.nil⟩

theorem Appended.cons_found {acc oldEAs app : List Fs.ExtendedAttribute}
    {o : Fs.ExtendedAttribute} (hf : ∃ ea ∈ acc, equalFold simpleFold ea.name o.name = true)
    (h : Appended simpleFold acc oldEAs app) : Appended simpleFold acc (o :: oldEAs) app := by
  refine ⟨fun a ha => ?_, List.forall_mem_cons.mpr ⟨?_, h.covered⟩, h.distinct⟩
  · obtain ⟨hn, o', ho', hname, hacc⟩ := h.cleared a ha
    exact ⟨hn, o', List.mem_cons_of_mem o ho', hname, hacc⟩
  · obtain ⟨ea, hea, hmatch⟩ := hf
    exact ⟨ea, List.mem_append_left _ hea, hmatch⟩

theorem Appended.cons_new {acc oldEAs app : List Fs.ExtendedAttribute} {o : Fs.ExtendedAttribute}
    (hno : ∀ ea ∈ acc, equalFold simpleFold ea.name o.name = false)
    (h : Appended simpleFold (acc ++ [⟨o.name, none⟩]) oldEAs app) :
    Appended simpleFold acc (o :: oldEAs) (⟨o.name, none⟩ :: app) := by
  refine ⟨List.forall_mem_cons.mpr ⟨⟨rfl, o, List.mem_cons_self o oldEAs, rfl, hno⟩, ?_⟩,
    List.forall_mem_cons.mpr ⟨⟨⟨o.name, none⟩, by simp, equalFold_self simpleFold o.name⟩, ?_⟩,
    List.Pairwise.cons (fun a ha => ?_) h.distinct⟩
  · intro a ha
    obtain ⟨hn, o', ho', hname, hacc⟩ := h.cleared a ha
    exact ⟨hn, o', List.mem_cons_of_mem o ho', hname, fun ea hea => hacc ea (by simp [hea])⟩
  · intro o' ho'
    simpa using h.covered o' ho'
  · obtain ⟨-, o', -, hname, hacc⟩ := h.cleared a ha
    simpa [hname] using hacc ⟨o.name, none⟩ (by simp)

variable (simpleFold)

/-- The loop's law, for any accumulator it starts from. -/
theorem clearOldEAs_spec : ∀ (oldEAs acc : List Fs.ExtendedAttribute),
    ∃ appended, clearOldEAs simpleFold acc oldEAs = acc ++ appended ∧
      Appended simpleFold acc oldEAs appended
  | [], acc => ⟨[], by simp [clearOldEAs], Appended.nil acc⟩
  | o :: oldEAs, acc => by
    rcases clearStep_cases simpleFold acc o with ⟨hf, hstep⟩ | ⟨hno, hstep⟩
    · obtain ⟨app, heq, h⟩ := clearOldEAs_spec oldEAs acc
      exact ⟨app, by rw [clearOldEAs, List.foldl_cons, hstep]; exact heq, h.cons_found hf⟩
    · obtain ⟨app, heq, h⟩ := clearOldEAs_spec oldEAs (acc ++ [⟨o.name, none⟩])
      refine ⟨_ :: app, ?_, h.cons_new hno⟩
      rw [clearOldEAs, List.foldl_cons, hstep]
      simpa using heq

/-! ## The restore and the fill -/

section Api

variable {W : Type} (api : EAApi W)

/-- The text `restoreExtendedAttributes` wraps an error of `SetFileEA` in. -/
def setEAFailed (path : String) (err : Error) : Error :=
  s!"set EA failed for path {path}, with: {err}"

/-- `restoreExtendedAttributes`: open the file for writing, read its attributes, and set `eas`
together with a nil value for every old attribute it does not name. A zero handle ends it with
no error, whatever error the open reported. -/
def restoreExtendedAttributes (w : W) (nodeType path : String) (eas : List Fs.ExtendedAttribute) :
    W × Option Error :=
  let (fileHandle, err) := api.openHandleForEA w nodeType path true
  if fileHandle = 0 then (w, none)
  else match err with
    | some err => (w, some s!"set EA failed while opening file handle for path {path}, with: {err}")
    | none =>
      let (oldEAs, err) := api.getFileEA w fileHandle
      match err with
      | some err => (w, some err)
      | none =>
        let (w', err) := api.setFileEA w fileHandle (clearOldEAs simpleFold eas oldEAs)
        (w', err.map (setEAFailed path))

/-- `Node.restoreExtendedAttributes`: the node's attributes, copied field by field, when it has
any. -/
def Node.restoreExtendedAttributes (w : W) (node : Node) (path : String) : W × Option Error :=
  let count := node.extendedAttributes.length
  if count > 0 then
    let eas := node.extendedAttributes.map fun attr => (⟨attr.name, attr.value⟩ : Fs.ExtendedAttribute)
    Restic.restoreExtendedAttributes simpleFold api w node.type path eas
  else (w, none)

/-- `Node.fillExtendedAttributes`: append the file's attributes, in the order `GetFileEA` gives
them, to the node's. On an error the node is left as it was. -/
def Node.fillExtendedAttributes (w : W) (node : Node) (path : String) : Node × Option Error :=
  let (fileHandle, err) := api.openHandleForEA w node.type path false
  if fileHandle = 0 then (node, none)
  else match err with
    | some err =>
      (node, some s!"get EA failed while opening file handle for path {path}, with: {err}")
    | none =>
      let (extAtts, err) := api.getFileEA w fileHandle
      match err with
      | some err => (node, some s!"get EA failed for path {path}, with: {err}")
      | none =>
        if extAtts.length = 0 then (node, none)
        else
          ({ node with
              extendedAttributes := node.extendedAttributes ++
                extAtts.map fun attr => (⟨attr.name, attr.value⟩ : ExtendedAttribute) }, none)

variable {api} {w : W} {nodeType path : String} {h : Handle}

theorem restoreExtendedAttributes_eq (eas : List Fs.ExtendedAttribute)
    {oldEAs : List Fs.ExtendedAttribute} (hh : h ≠ 0)
    (hopen : api.openHandleForEA w nodeType path true = (h, none))
    (hget : api.getFileEA w h = (oldEAs, none)) :
    restoreExtendedAttributes simpleFold api w nodeType path eas =
      Prod.map id (Option.map (setEAFailed path))
        (api.setFileEA w h (clearOldEAs simpleFold eas oldEAs)) := by
  simp [restoreExtendedAttributes, hopen, hget, hh, Prod.map]

theorem restoreExtendedAttributes_setFileEA (eas oldEAs : List Fs.ExtendedAttribute)
    (hh : h ≠ 0) (hopen : api.openHandleForEA w nodeType path true = (h, none))
    (hget : api.getFileEA w h = (oldEAs, none)) :
    ∃ appended : List Fs.ExtendedAttribute,
      restoreExtendedAttributes simpleFold api w nodeType path eas =
        Prod.map id (Option.map (setEAFailed path)) (api.setFileEA w h (eas ++ appended)) ∧
      (∀ a ∈ appended, a.value = none ∧ ∃ o ∈ oldEAs, a.name = o.name ∧
        ∀ ea ∈ eas, equalFold simpleFold ea.name o.name = false ∧
          equalFold simpleFold o.name ea.name = false) ∧
      (∀ o ∈ oldEAs, ∃ e ∈ eas ++ appended, equalFold simpleFold e.name o.name = true ∧
        equalFold simpleFold o.name e.name = true) ∧
      appended.Pairwise fun a b => equalFold simpleFold a.name b.name = false ∧
        equalFold simpleFold b.name a.name = false := by
  obtain ⟨app, heq, hc, hv, hd⟩ := clearOldEAs_spec simpleFold oldEAs eas
  refine ⟨app, by rw [restoreExtendedAttributes_eq simpleFold eas hh hopen hget, heq], ?_, ?_, ?_⟩
  · intro a ha
    obtain ⟨hn, o, ho, hname, hno⟩ := hc a ha
    exact ⟨hn, o, ho, hname, fun ea hea => ⟨hno ea hea, by rw [equalFold_comm, hno ea hea]⟩⟩
  · intro o ho
    obtain ⟨e, he, hm⟩ := hv o ho
    exact ⟨e, he, hm, by rw [equalFold_comm, hm]⟩
  · exact hd.imp fun hab => ⟨hab, by rw [equalFold_comm, hab]⟩

theorem restoreExtendedAttributes_setFileEA_overwrites :
    (1 : Handle) ≠ 0 ∧ ∃ appended : List Fs.ExtendedAttribute,
      restoreExtendedAttributes id
          ⟨fun _ _ _ _ => (1, none), fun _ _ => ([⟨[0x61], some [2]⟩, ⟨[0x42], some [3]⟩], none),
            fun _ _ eas => (eas, none)⟩
          [] "file" "f" [⟨[0x41], some [1]⟩] = ([⟨[0x41], some [1]⟩] ++ appended, none) ∧
      (∀ a ∈ appended, a.value = none ∧
        ∃ o ∈ [(⟨[0x61], some [2]⟩ : Fs.ExtendedAttribute), ⟨[0x42], some [3]⟩], a.name = o.name ∧
          ∀ ea ∈ [(⟨[0x41], some [1]⟩ : Fs.ExtendedAttribute)],
            equalFold id ea.name o.name = false ∧ equalFold id o.name ea.name = false) ∧
      (∀ o ∈ [(⟨[0x61], some [2]⟩ : Fs.ExtendedAttribute), ⟨[0x42], some [3]⟩],
        ∃ e ∈ [(⟨[0x41], some [1]⟩ : Fs.ExtendedAttribute)] ++ appended,
          equalFold id e.name o.name = true ∧ equalFold id o.name e.name = true) ∧
      appended.Pairwise fun a b => equalFold id a.name b.name = false ∧
        equalFold id b.name a.name = false :=
  ⟨Nat.one_ne_zero, restoreExtendedAttributes_setFileEA id _ _ Nat.one_ne_zero rfl rfl⟩

end Api

end Restic
