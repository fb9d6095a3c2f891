import Restic.ExtendedAttributes

/-!
# Restoring file attributes and encryption

`SetFileAttributes` cannot set or clear `FILE_ATTRIBUTE_ENCRYPTED`, so `restoreFileAttributes`
first makes the encryption match through `EncryptFile` or `DecryptFile`, and only logs it
when that fails. Both of those fail on a file that is read-only or a system file; the code
then resets the permissions, clears the system flag and tries once more, counting on the
final `SetFileAttributes` to put the flags back. The two directions are one procedure,
`changeWithRetry`, each with its own texts; the decryption passes the encryption's text for a
failed permission reset.
-/

namespace Restic

/-- `windows.FILE_ATTRIBUTE_ENCRYPTED`. -/
def FILE_ATTRIBUTE_ENCRYPTED : UInt32 := 0x00004000

/-- `syscall.UTF16PtrFromString`: a path holding a NUL cannot be passed, `EINVAL`. -/
def utf16PtrFromString (path : String) : Option Error :=
  if Char.ofNat 0 ∈ path.data then some "invalid argument" else none

/-- The calls the attribute code makes, answered against a world `W`. -/
structure FileAttrApi (W : Type) where
  encryptFile : W → String → W × Option Error
  decryptFile : W → String → W × Option Error
  getFileAttributes : W → String → UInt32 × Option Error
  setFileAttributes : W → String → UInt32 → W × Option Error
  resetPermissions : W → String → W × Option Error
  clearSystem : W → String → W × Option Error
  isAccessDenied : Error → Bool
  isFileReadOnly : Error → Bool

section Api

variable {W : Type} (api : FileAttrApi W)

/-- One direction of `fixEncryptionAttribute`: `call`, and when it fails for want of access,
reset the permissions, clear the system flag and `call` again. `verb` names the direction in
the texts, `resetVerb` in the one for a failed permission reset. -/
def changeWithRetry (call : W → String → W × Option Error) (verb resetVerb : String) (w : W)
    (path : String) : W × Option Error :=
  let (w, err) := call w path
  match err with
  | none => (w, none)
  | some err =>
    if api.isAccessDenied err || api.isFileReadOnly err then
      let (w, err) := api.resetPermissions w path
      match err with
      | some err =>
        (w, some s!"failed to {resetVerb} file: failed to reset permissions: {path} : {err}")
      | none =>
        let (w, err) := api.clearSystem w path
        match err with
        | some err => (w, some s!"failed to {verb} file: failed to clear system flag: {path} : {err}")
        | none =>
          let (w, err) := call w path
          match err with
          | some err => (w, some s!"failed retry to {verb} file: {path} : {err}")
          | none => (w, none)
    else (w, some s!"failed to {verb} file: {path} : {err}")

/-- `fixEncryptionAttribute`: encrypt when `attrs` asks for it, decrypt when it does not and the
file is encrypted. -/
def fixEncryptionAttribute (w : W) (path : String) (attrs : UInt32) : W × Option Error :=
  if attrs &&& FILE_ATTRIBUTE_ENCRYPTED ≠ 0 then
    changeWithRetry api api.encryptFile "encrypt" "encrypt" w path
  else
    let (existingAttrs, err) := api.getFileAttributes w path
    match err with
    | some err => (w, some s!"failed to get file attributes for existing file: {path} : {err}")
    | none =>
      if existingAttrs &&& FILE_ATTRIBUTE_ENCRYPTED ≠ 0 then
        changeWithRetry api api.decryptFile "decrypt" "encrypt" w path
      else (w, none)

/-- `restoreFileAttributes`: fix the encryption, whose failure is only logged, then set the
attributes. -/
def restoreFileAttributes (w : W) (path : String) (fileAttributes : UInt32) : W × Option Error :=
  match utf16PtrFromString path with
  | some err => (w, some err)
  | none =>
    let (w, _) := fixEncryptionAttribute api w path fileAttributes
    api.setFileAttributes w path fileAttributes

/-- An encrypted file to be decrypted, whose decryption is denied and whose permission reset
fails: the error speaks of encrypting. -/
example :
    fixEncryptionAttribute
      ⟨fun w _ => (w, none), fun w _ => (w, some "Access is denied."),
        fun _ _ => (FILE_ATTRIBUTE_ENCRYPTED, none), fun w _ _ => (w, none),
        fun w _ => (w, some "reset failed"), fun w _ => (w, none),
        fun e => e == "Access is denied.", fun _ => false⟩ () "f" 0 =
      ((), some "failed to encrypt file: failed to reset permissions: f : reset failed") := by
  decide

end Api

/-- `syscall.Filetime`: 100-nanosecond intervals since 1601, in two DWORDs. -/
structure Filetime where
  lowDateTime : UInt32
  highDateTime : UInt32
  deriving DecidableEq, Repr

end Restic
