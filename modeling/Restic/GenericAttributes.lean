import Restic.FileAttributes

/-!
# Windows generic attributes

The attributes Windows keeps beside the extended ones: the creation time, the file attribute
bits and the security descriptor. `restoreGenericAttributes` restores each the node carries,
in that order, and gathers the failures instead of stopping at the first; the three blocks
are one, `restoreGeneric`, with their own restore and text. So every error it hands on names
its attribute and the path (`Node.restoreGenericAttributes_errors`), and one failure does not
keep the later attributes from being restored.

`fillGenericAttributes` is the backup side: it records the three, unless the path is an
alternate data stream or a drive root, and keeps a stream's extended attributes from being read.
-/

namespace Restic

/-- `statT` is `syscall.Win32FileAttributeData`. -/
structure statT where
  fileAttributes : UInt32
  creationTime : Filetime
  lastAccessTime : Filetime
  lastWriteTime : Filetime
  fileSizeHigh : UInt32
  fileSizeLow : UInt32
  deriving DecidableEq, Repr

/-- `statT.size`: `int64(s.FileSizeLow) | (int64(s.FileSizeHigh) << 32)`, a signed `int64`. -/
def statT.size (s : statT) : Int :=
  (s.fileSizeLow.toBitVec.setWidth 64 ||| s.fileSizeHigh.toBitVec.setWidth 64 <<< 32).toInt

/-- `WindowsAttributes`: each field is `none` when the node does not carry it. -/
structure WindowsAttributes where
  creationTime : Option Filetime
  fileAttributes : Option UInt32
  securityDescriptor : Option (List UInt8)
  deriving DecidableEq, Repr

/-- The calls of the generic-attribute code, answered against a world `W`. -/
structure GenericAttrApi (W : Type) extends FileAttrApi W where
  createFile : W → String → Handle × Option Error
  setFileTime : W → Handle → Filetime → W × Option Error
  setSecurityDescriptor : W → String → List UInt8 → W × Option Error

section Api

variable {W : Type} (api : GenericAttrApi W)

/-- `restoreCreationTime`: open the path to write attributes, and set its creation time. -/
def restoreCreationTime (w : W) (path : String) (creationTime : Filetime) : W × Option Error :=
  match utf16PtrFromString path with
  | some err => (w, some err)
  | none =>
    let (handle, err) := api.createFile w path
    match err with
    | some err => (w, some err)
    | none => api.setFileTime w handle creationTime

/-- One of `restoreGenericAttributes`'s blocks: when the node carries the attribute, restore
it, and keep a failure as `error restoring {what} for: {path} : {err}`. -/
def restoreGeneric {α : Type} (restore : W → String → α → W × Option Error) (what path : String)
    (attr : Option α) (st : W × List Error) : W × List Error :=
  match attr with
  | none => st
  | some a =>
    let (w, err) := restore st.1 path a
    (w, st.2 ++ (err.map fun err => s!"error restoring {what} for: {path} : {err}").toList)

variable
  (genericAttributesToWindowsAttrs :
    List (GenericAttributeType × List UInt8) →
      WindowsAttributes × List GenericAttributeType × Option Error)
  (combineErrors : List Error → Option Error)

/-- `Node.restoreGenericAttributes`. The conversion from the node's map, the warnings for
unknown attributes and `errors.CombineErrors` are not part of this repository: the first and
last are parameters, and the warnings are left out. -/
def Node.restoreGenericAttributes (w : W) (node : Node) (path : String) : W × Option Error :=
  if node.genericAttributes.length = 0 then (w, none)
  else
    let (windowsAttributes, _, err) := genericAttributesToWindowsAttrs node.genericAttributes
    match err with
    | some err => (w, some s!"error parsing generic attribute for: {path} : {err}")
    | none =>
      let st := restoreGeneric (restoreCreationTime api) "creation time" path
        windowsAttributes.creationTime (w, [])
      let st := restoreGeneric (restoreFileAttributes api.toFileAttrApi) "file attributes" path
        windowsAttributes.fileAttributes st
      let st := restoreGeneric api.setSecurityDescriptor "security descriptor" path
        windowsAttributes.securityDescriptor st
      (st.1, combineErrors st.2)

/-- The three attributes' names in the restore's texts. -/
def genericNames : List String := ["creation time", "file attributes", "security descriptor"]

/-- At most `n` errors, each naming one of the attributes and the path. -/
def GenericErrors (path : String) (n : Nat) (errs : List Error) : Prop :=
  errs.length ≤ n ∧
    ∀ e ∈ errs, ∃ what ∈ genericNames, ∃ err : Error, e = s!"error restoring {what} for: {path} : {err}"

variable {api}

theorem restoreGeneric_errors {α : Type} (restore : W → String → α → W × Option Error)
    {what path : String} (hw : what ∈ genericNames) (attr : Option α) {st : W × List Error}
    {n : Nat} (h : GenericErrors path n st.2) :
    GenericErrors path (n + 1) (restoreGeneric restore what path attr st).2 := by
  obtain ⟨hl, he⟩ := h
  cases attr with
  | none => exact ⟨Nat.le_succ_of_le hl, he⟩
  | some a =>
    rcases hr : restore st.1 path a with ⟨w', _ | err⟩
    · exact ⟨by simp [restoreGeneric, hr]; omega, by simpa [restoreGeneric, hr] using he⟩
    · refine ⟨by simp [restoreGeneric, hr]; omega, fun e hmem => ?_⟩
      simp only [restoreGeneric, hr, Option.map_some', Option.toList_some, List.mem_append,
        List.mem_singleton] at hmem
      rcases hmem with hmem | rfl
      · exact he e hmem
      · exact ⟨what, hw, err, rfl⟩

/-- What the restore reports: nothing, a parse error, or what `CombineErrors` makes of at most
one error per attribute, each naming it and the path. -/
theorem Node.restoreGenericAttributes_errors (w : W) (node : Node) (path : String) :
    (node.restoreGenericAttributes api genericAttributesToWindowsAttrs combineErrors w path).2 =
        none ∨
      (∃ err : Error,
        (node.restoreGenericAttributes api genericAttributesToWindowsAttrs combineErrors w path).2 =
          some s!"error parsing generic attribute for: {path} : {err}") ∨
      ∃ errs : List Error,
        (node.restoreGenericAttributes api genericAttributesToWindowsAttrs combineErrors w path).2 =
          combineErrors errs ∧ GenericErrors path 3 errs := by
  unfold Node.restoreGenericAttributes
  split
  · exact .inl rfl
  · obtain ⟨wa, unknown, err⟩ := genericAttributesToWindowsAttrs node.genericAttributes
    cases err with
    | some err => exact .inr (.inl ⟨err, rfl⟩)
    | none =>
      refine .inr (.inr ⟨_, rfl, ?_⟩)
      refine restoreGeneric_errors _ (by simp [genericNames]) _
        (restoreGeneric_errors _ (by simp [genericNames]) _
          (restoreGeneric_errors _ (by simp [genericNames]) _ ⟨le_refl 0, by simp⟩))

end Api

/-! ## Filling -/

/-- `fs.GetSecurityDescriptor`, the one call `fillGenericAttributes` makes. -/
structure FillApi (W : Type) where
  getSecurityDescriptor : W → String → Option (List UInt8) × Option Error

/-- `getCreationTime`: the creation time in `fi.Sys()` when that is the file's
`Win32FileAttributeData`; `sys` is that value, `none` when it is not one. -/
def getCreationTime (sys : Option statT) : Option Filetime :=
  sys.map statT.creationTime

section Fill

variable {W : Type} (api : FillApi W) (base clean : String → String)
  (windowsAttrsToGenericAttributes :
    WindowsAttributes → List (GenericAttributeType × List UInt8) × Option Error)

/-- `Node.fillGenericAttributes`, answering the node and whether its extended attributes may be
read. An alternate data stream (a `:` in the base name) gets nothing and no extended
attributes; a drive root (a cleaned path ending in a backslash) gets nothing. Any other path
takes the creation time, the attribute bits and, for a file or a directory, the security
descriptor, as the conversion maps them. `strings.Contains` and `strings.HasSuffix` look for
one ASCII character, which no other character's UTF-8 holds: a membership and a last
character. `filepath.Base`, `filepath.Clean` and the conversion are not part of this
repository: they are parameters. -/
def Node.fillGenericAttributes (w : W) (node : Node) (path : String) (sys : Option statT)
    (stat : statT) : Node × Bool × Option Error :=
  if ':' ∈ (base path).data then (node, false, none)
  else if (clean path).data.getLast? = some '\\' then (node, true, none)
  else
    let (sd, err) : Option (List UInt8) × Option Error :=
      if node.type = "file" ∨ node.type = "dir" then api.getSecurityDescriptor w path
      else (none, none)
    match err with
    | some err => (node, true, some err)
    | none =>
      let (attrs, err) := windowsAttrsToGenericAttributes
        ⟨getCreationTime sys, some stat.fileAttributes, sd⟩
      ({ node with genericAttributes := attrs }, true, err)

end Fill

end Restic
