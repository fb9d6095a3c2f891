import Mathlib.Algebra.Group.Int
import Restic.GenericAttributes

/-!
# Windows timestamps

`statT` reports a file's access and write times as `syscall.Timespec`s, through Go's
`Filetime.Nanoseconds` and `NsecToTimespec`; `restoreSymlinkTimestamps` writes such a pair back
through `TimespecToNsec` and `NsecToFiletime`. The conversions are Go's, in `int64` arithmetic,
which wraps (`int64`).

The way back undoes the way there exactly when the time, counted in nanoseconds from 1970, fits
an `int64` (`nsecToFiletime_roundTrip_iff`): from 1677-09-21 to 2262-04-11
(`Filetime.representable_iff`). So restoring a symlink's times from what `statT` read gives
them back exactly in that range (`restoreSymlinkTimestamps_statT`); past it the count wraps,
and another time is written.

On Linux the times go to `UtimesNanoAt` unchanged, relative to the link's directory, which the
restore opens and closes on every way out (`Linux.Node.restoreSymlinkTimestamps`).
-/

namespace Restic

/-- Go's `int64`: a value wrapped into `[-2^63, 2^63)`, as its arithmetic does. -/
def int64 (x : Int) : Int := x.bmod (2 ^ 64)

theorem int64_eq_self {x : Int} (h : -2 ^ 63 ≤ x ∧ x < 2 ^ 63) : int64 x = x := by
  rw [int64, Int.bmod_def]
  push_cast
  split <;> omega

@[simp] theorem int64_int64 (x : Int) : int64 (int64 x) = int64 x := Int.bmod_bmod

/-- An `int64` differs from the value it wraps by a multiple of `2^64`. -/
theorem int64_spec (x : Int) :
    ∃ k : Int, int64 x = x - k * 2 ^ 64 ∧ -2 ^ 63 ≤ int64 x ∧ int64 x < 2 ^ 63 := by
  rw [int64, Int.bmod_def]
  push_cast
  split
  · exact ⟨x / 2 ^ 64, by omega, by omega, by omega⟩
  · exact ⟨x / 2 ^ 64 + 1, by omega, by omega, by omega⟩

/-- `syscall.Timespec`: seconds and nanoseconds, both `int64`. -/
structure Timespec where
  sec : Int
  nsec : Int
  deriving DecidableEq, Repr

/-- The 100-nanosecond intervals from 1601 to 1970. -/
def unixEpochFiletime : Int := 116444736000000000

/-- The 100-nanosecond intervals since 1601 that a `FILETIME` holds, high DWORD above low. -/
def Filetime.value (ft : Filetime) : Nat := ft.highDateTime.toNat * 2 ^ 32 + ft.lowDateTime.toNat

/-- `Filetime.Nanoseconds`: `int64(HighDateTime)<<32 + int64(LowDateTime)`, moved to 1970 and
counted in nanoseconds. -/
def Filetime.nanoseconds (ft : Filetime) : Int :=
  let nsec := int64 (int64 (ft.highDateTime.toNat * 2 ^ 32) + ft.lowDateTime.toNat)
  let nsec := int64 (nsec - unixEpochFiletime)
  int64 (nsec * 100)

/-- `NsecToTimespec`: Go's `/` and `%` on `int64`, which truncate. -/
def nsecToTimespec (nsec : Int) : Timespec :=
  ⟨nsec.tdiv 1000000000, nsec.tmod 1000000000⟩

/-- `TimespecToNsec`: `int64(ts.Sec)*1e9 + int64(ts.Nsec)`. -/
def timespecToNsec (ts : Timespec) : Int :=
  int64 (int64 (ts.sec * 1000000000) + ts.nsec)

/-- `NsecToFiletime`: to 100-nanosecond intervals since 1601, split into `uint32` halves by
`nsec & 0xffffffff` and `nsec >> 32 & 0xffffffff`. -/
def nsecToFiletime (nsec : Int) : Filetime :=
  let nsec := int64 (nsec.tdiv 100 + unixEpochFiletime)
  ⟨(nsec % 2 ^ 32).toNat.toUInt32, (nsec / 2 ^ 32 % 2 ^ 32).toNat.toUInt32⟩

/-- `statT.atim`. -/
def statT.atim (s : statT) : Timespec := nsecToTimespec s.lastAccessTime.nanoseconds

/-- `statT.mtim`. -/
def statT.mtim (s : statT) : Timespec := nsecToTimespec s.lastWriteTime.nanoseconds

/-- `statT.ctim`: Windows has no change time; the code reports the write time. -/
def statT.ctim (s : statT) : Timespec := s.mtim

/-! ## The round trip -/

/-- A `FILETIME` whose distance from 1970 in nanoseconds fits an `int64`. -/
def Filetime.Representable (ft : Filetime) : Prop :=
  -2 ^ 63 ≤ ((ft.value : Int) - unixEpochFiletime) * 100 ∧
    ((ft.value : Int) - unixEpochFiletime) * 100 < 2 ^ 63

instance : DecidablePred Filetime.Representable :=
  fun _ => inferInstanceAs (Decidable (_ ∧ _))

theorem Filetime.nanoseconds_eq (ft : Filetime) :
    ft.nanoseconds = int64 (((ft.value : Int) - unixEpochFiletime) * 100) := by
  simp only [Filetime.nanoseconds, int64, Int.bmod_add_bmod_congr, Int.bmod_sub_bmod_congr,
    Int.bmod_mul_bmod, Filetime.value]
  push_cast
  rfl

theorem timespecToNsec_nsecToTimespec (nsec : Int) :
    timespecToNsec (nsecToTimespec nsec) = int64 nsec := by
  simp only [timespecToNsec, nsecToTimespec, int64, Int.bmod_add_bmod_congr, Int.tdiv_add_tmod']

theorem word_ext {a b : UInt32} (h : a.toNat = b.toNat) : a = b := UInt32.eq_of_val_eq (Fin.ext h)

theorem Filetime.value_lt (ft : Filetime) : ft.value < 2 ^ 64 := by
  have : ft.lowDateTime.toNat < 2 ^ 32 := ft.lowDateTime.toBitVec.isLt
  have : ft.highDateTime.toNat < 2 ^ 32 := ft.highDateTime.toBitVec.isLt
  unfold Filetime.value
  omega

/-- `NsecToFiletime` writes `ft` exactly when the count it computes is `ft`'s modulo `2^64`. -/
theorem nsecToFiletime_eq_iff (nsec : Int) (ft : Filetime) :
    nsecToFiletime nsec = ft ↔ int64 (nsec.tdiv 100 + unixEpochFiletime) % 2 ^ 64 = ft.value := by
  obtain ⟨lo, hi⟩ := ft
  have hlo : lo.toNat < 2 ^ 32 := lo.toBitVec.isLt
  have hhi : hi.toNat < 2 ^ 32 := hi.toBitVec.isLt
  simp only [nsecToFiletime, Filetime.mk.injEq, Filetime.value]
  generalize int64 (nsec.tdiv 100 + unixEpochFiletime) = w
  constructor
  · rintro ⟨h1, h2⟩
    have e1 : (w % 2 ^ 32).toNat % 2 ^ 32 = lo.toNat := congrArg UInt32.toNat h1
    have e2 : (w / 2 ^ 32 % 2 ^ 32).toNat % 2 ^ 32 = hi.toNat := congrArg UInt32.toNat h2
    omega
  · intro h
    exact ⟨word_ext (show _ % 2 ^ 32 = lo.toNat by omega),
      word_ext (show _ % 2 ^ 32 = hi.toNat by omega)⟩

/-- Go's `/` by 100 on an `int64` truncates: it moves the value by less than 100, towards 0. -/
theorem tdiv_hundred (a : Int) :
    a - 100 < a.tdiv 100 * 100 ∧ a.tdiv 100 * 100 < a + 100 := by
  by_cases ha : 0 ≤ a
  · rw [Int.tdiv_eq_ediv ha (by decide)]
    omega
  · rw [← Int.neg_neg a, Int.neg_tdiv, Int.tdiv_eq_ediv (by omega) (by decide)]
    omega

/-- Reading a time with `statT` and writing it back with `NsecToFiletime` gives the same time
exactly when Go can count its nanoseconds from 1970 in an `int64`. -/
theorem nsecToFiletime_roundTrip_iff (ft : Filetime) :
    nsecToFiletime (timespecToNsec (nsecToTimespec ft.nanoseconds)) = ft ↔ ft.Representable := by
  rw [timespecToNsec_nsecToTimespec, Filetime.nanoseconds_eq, int64_int64, nsecToFiletime_eq_iff,
    Filetime.Representable]
  have hv := ft.value_lt
  generalize ft.value = v at *
  constructor
  · intro h
    obtain ⟨k, hN, hN'⟩ := int64_spec (((v : Int) - unixEpochFiletime) * 100)
    have hq := tdiv_hundred (int64 (((v : Int) - unixEpochFiletime) * 100))
    obtain ⟨j, hw, -⟩ :=
      int64_spec ((int64 (((v : Int) - unixEpochFiletime) * 100)).tdiv 100 + unixEpochFiletime)
    generalize int64 (((v : Int) - unixEpochFiletime) * 100) = N at *
    generalize N.tdiv 100 = q at *
    generalize int64 (q + unixEpochFiletime) = w at *
    simp only [unixEpochFiletime, Int.reducePow, Nat.reducePow] at *
    -- the count written back is `v` modulo `2^64`, so it wrapped `m` times
    obtain ⟨m, hm⟩ : ∃ m : Int, q = v - 116444736000000000 + m * 18446744073709551616 :=
      ⟨(q + 116444736000000000 - v) / 18446744073709551616, by omega⟩
    have hkm : k + 100 * m = 0 := by omega
    have hm0 : m = 0 := by omega
    omega
  · intro h
    have hv' : (v : Int) < 2 ^ 63 := by unfold unixEpochFiletime at h; omega
    rw [int64_eq_self h, Int.mul_tdiv_cancel _ (by decide), Int.sub_add_cancel,
      int64_eq_self ⟨by omega, hv'⟩]
    exact Int.emod_eq_of_lt (Int.ofNat_nonneg v) (by omega)

example : ¬ (⟨0, 0x7FFFFFFF⟩ : Filetime).Representable ∧
    nsecToFiletime (timespecToNsec (nsecToTimespec (Filetime.nanoseconds ⟨0, 0x7FFFFFFF⟩))) ≠
      ⟨0, 0x7FFFFFFF⟩ := by
  decide

/-- The representable `FILETIME`s: from 1677-09-21 to 2262-04-11, in 100-nanosecond intervals
since 1601. -/
theorem Filetime.representable_iff (ft : Filetime) :
    ft.Representable ↔ 24211015631452242 ≤ ft.value ∧ ft.value ≤ 208678456368547758 := by
  unfold Filetime.Representable unixEpochFiletime
  omega

/-! ## Restoring a symlink's times -/

/-- The calls `restoreSymlinkTimestamps` makes, answered against a world `W`: `CreateFile` with
`FILE_FLAG_OPEN_REPARSE_POINT`, which opens the link and not its target, and
`SetFileTime(h, nil, &a, &w)`, which sets the access and write times. -/
structure SymlinkTimesApi (W : Type) where
  createFile : W → String → Handle × Option Error
  setFileTime : W → Handle → Filetime → Filetime → W × Option Error

section Api

variable {W : Type} (api : SymlinkTimesApi W)

/-- `Node.restoreSymlinkTimestamps` on Windows: open the link, and set its access and write
times to `utimes`, converted by `NsecToFiletime`. -/
def Node.restoreSymlinkTimestamps (w : W) (_node : Node) (path : String)
    (utimes : Timespec × Timespec) : W × Option Error :=
  match utf16PtrFromString path with
  | some e => (w, some e)
  | none =>
    let (h, e) := api.createFile w path
    match e with
    | some e => (w, some e)
    | none =>
      api.setFileTime w h (nsecToFiletime (timespecToNsec utimes.1))
        (nsecToFiletime (timespecToNsec utimes.2))

end Api

/-- A link's access and write times, which `SetFileTime` sets. -/
structure LinkTimes where
  lastAccessTime : Filetime
  lastWriteTime : Filetime
  deriving DecidableEq, Repr

/-- A link that can always be opened and given new times. -/
def linkTimesApi : SymlinkTimesApi LinkTimes :=
  ⟨fun _ _ => (1, none), fun _ _ a w => (⟨a, w⟩, none)⟩

/-- Restoring the times `statT` read of a link gives the link those times back exactly when
both lie in Go's range. -/
theorem restoreSymlinkTimestamps_statT (t : LinkTimes) (node : Node) {path : String}
    (hpath : utf16PtrFromString path = none) (s : statT) :
    (node.restoreSymlinkTimestamps linkTimesApi t path (s.atim, s.mtim)).1 =
        ⟨s.lastAccessTime, s.lastWriteTime⟩ ↔
      s.lastAccessTime.Representable ∧ s.lastWriteTime.Representable := by
  simp only [Node.restoreSymlinkTimestamps, hpath, linkTimesApi, statT.atim, statT.mtim,
    LinkTimes.mk.injEq, nsecToFiletime_roundTrip_iff]

theorem restoreSymlinkTimestamps_statT_now :
    utf16PtrFromString "link" = none ∧
      ((Node.restoreSymlinkTimestamps linkTimesApi ⟨⟨0, 0⟩, ⟨0, 0⟩⟩ ⟨"symlink", [], []⟩ "link"
          ((⟨0, ⟨0, 0⟩, ⟨1, 0x01DB0000⟩, ⟨2, 0x01DB0000⟩, 0, 0⟩ : statT).atim,
            (⟨0, ⟨0, 0⟩, ⟨1, 0x01DB0000⟩, ⟨2, 0x01DB0000⟩, 0, 0⟩ : statT).mtim)).1 =
          ⟨⟨1, 0x01DB0000⟩, ⟨2, 0x01DB0000⟩⟩ ↔
        (⟨1, 0x01DB0000⟩ : Filetime).Representable ∧ (⟨2, 0x01DB0000⟩ : Filetime).Representable) :=
  ⟨by decide, restoreSymlinkTimestamps_statT _ _ (by decide) _⟩

/-! ## On Linux -/

/-- An open file's descriptor. -/
abbrev Fd := Nat

/-- `unix.AT_SYMLINK_NOFOLLOW` on Linux. -/
def AT_SYMLINK_NOFOLLOW : Nat := 0x100

/-- The calls the Linux `restoreSymlinkTimestamps` makes, answered against a world `W`:
`fs.Open`, `unix.UtimesNanoAt(dirfd, path, times, flags)` and `(*os.File).Close`. -/
structure LinuxSymlinkApi (W : Type) where
  openFile : W → String → W × Fd × Option Error
  utimesNanoAt : W → Fd → String → List Timespec → Nat → W × Option Error
  close : W → Fd → W × Option Error

namespace Linux

variable {W : Type} (api : LinuxSymlinkApi W) (dir base : String → String)

/-- `Node.restoreSymlinkTimestamps` on Linux: open the link's directory, set the link's times in
it without following the link, and close the directory on either way out. `errors.WithStack`
keeps the text and `errors.Wrap` puts `UtimesNanoAt: ` before it. `filepath.Dir` and
`filepath.Base` are not part of this repository: they are parameters. -/
def Node.restoreSymlinkTimestamps (w : W) (_node : Node) (path : String)
    (utimes : Timespec × Timespec) : W × Option Error :=
  let (w, d, err) := api.openFile w (dir path)
  match err with
  | some err => (w, some err)
  | none =>
    let times : List Timespec := [⟨utimes.1.sec, utimes.1.nsec⟩, ⟨utimes.2.sec, utimes.2.nsec⟩]
    let (w, err) := api.utimesNanoAt w d (base path) times AT_SYMLINK_NOFOLLOW
    match err with
    | some err =>
      let (w, _) := api.close w d
      (w, some s!"UtimesNanoAt: {err}")
    | none => api.close w d

end Linux

end Restic
