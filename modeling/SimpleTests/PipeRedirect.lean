import SimpleTests.DescriptorTable
import SimpleTests.CStrings
import Mathlib.Data.UInt

/-! # Standard output through a pipe

`main()` of `pipe/pipe.cpp` puts a pipe in the place of standard output, prints, reads the
text back from the pipe, and then puts the old file in its place again.  It looks at the
result of `pipe()` alone.

The process is followed through its descriptors, the pipe, and the buffer of `stdout`.  What
becomes of it depends on the descriptors it is started with, and on what the file of standard
output does with a text (`Sink`): `outcome` reads it off these, and `main_outcome` proves that
for every table and all files.
-/
namespace SimpleTests.PipeRedirect
open DescriptorTable CStrings

variable {S : Type*}

/-- What a descriptor is open on: a file that was there before, or an end of the pipe. -/
inductive File (S : Type*)
  | given (f : S)
  | readEnd
  | writeEnd

def File.isReadEnd : File S → Bool
  | .readEnd => true
  | _ => false

def File.isWriteEnd : File S → Bool
  | .writeEnd => true
  | _ => false

/-- What a file from before does with the bytes that are written to it. -/
inductive Sink
  /-- It takes all of them. -/
  | takes
  /-- It takes so many, and then `write()` fails.  It takes none if it is not open for
  writing. -/
  | fails (n : ℕ)
  /-- It is a pipe or a connection that nobody reads any more. -/
  | broken
  /-- It has no room, and nobody makes any. -/
  | full
  deriving DecidableEq

/-- How the process ends. -/
inductive Ending
  | exited (status : ℤ)
  /-- By `SIGPIPE`. -/
  | killed
  /-- It waits for ever. -/
  | blocked
  /-- A string is read beyond its buffer. -/
  | undefined
  deriving DecidableEq

structure Proc (S : Type*) where
  files : Files (File S)
  /-- The bytes in the pipe. -/
  pipe : List UInt8
  /-- The bytes in the buffer of `stdout`. -/
  stdout : List UInt8
  /-- What has been written to the files from before, in order. -/
  written : List (S × List UInt8)
  /-- What they do with it. -/
  sink : S → Sink
  /-- What a `read()` from such a file returns. -/
  input : S → List UInt8
  /-- The process was started with `SIGPIPE` ignored. -/
  ignoresSigpipe : Bool

/-! ## The calls -/

/-- The bytes that a file takes of those that are written to it, or what becomes of the
process. -/
def Sink.write (ignoresSigpipe : Bool) (data : List UInt8) : Sink → Except Ending (List UInt8)
  | .takes => .ok data
  | .fails n => .ok (data.take n)
  | .broken => if ignoresSigpipe then .ok [] else .error .killed
  | .full => .error .blocked

/-- `_POSIX_PIPE_BUF`: so many bytes have room in every pipe. -/
def pipeBuf : ℕ := 512

/-- `STDOUT_FILENO` -/
def stdoutFileno : ℕ := 1

/-- `MAX_LEN` -/
def maxLen : ℕ := 40

namespace Proc
variable (p : Proc S)

/-- `dup()`; `none` is -1. -/
def dup (d : ℕ) : Option ℕ × Proc S :=
  match DescriptorTable.dup p.files d with
  | none => (none, p)
  | some (e, files) => (some e, { p with files := files })

/-- `pipe()`, with the two descriptors. -/
def makePipe : Option (ℕ × ℕ × Proc S) :=
  (DescriptorTable.pipe p.files .readEnd .writeEnd).map fun x =>
    (x.1, x.2.1, { p with files := x.2.2 })

/-- `dup2()`, the result of which is not looked at. -/
def dup2 (d : Option ℕ) (e : ℕ) : Proc S :=
  { p with files := d.elim p.files (DescriptorTable.dup2 p.files · e) }

/-- `close()` -/
def close (d : ℕ) : Proc S := { p with files := DescriptorTable.close p.files d }

/-- `write()`, the result of which is not looked at.  Without a reader of the pipe there is
`SIGPIPE`, or `EPIPE` where that is ignored. -/
def write (d : ℕ) (data : List UInt8) : Except Ending (Proc S) :=
  match file p.files d with
  | some (.given f) =>
    ((p.sink f).write p.ignoresSigpipe data).map fun taken =>
      { p with written := p.written ++ [(f, taken)] }
  | some .writeEnd =>
    if anyOpen File.isReadEnd p.files then
      if p.pipe.length + data.length ≤ pipeBuf then .ok { p with pipe := p.pipe ++ data }
      else .error .blocked
    else if p.ignoresSigpipe then .ok p
    else .error .killed
  | some .readEnd | none => .ok p

/-- `read()`; nothing is read if it fails.  Without a writer an empty pipe is at its end. -/
def read (d count : ℕ) : Except Ending (List UInt8 × Proc S) :=
  match file p.files d with
  | some (.given f) => .ok ((p.input f).take count, p)
  | some .readEnd =>
    if p.pipe ≠ [] then .ok (p.pipe.take count, { p with pipe := p.pipe.drop count })
    else if anyOpen File.isWriteEnd p.files then .error .blocked
    else .ok ([], p)
  | some .writeEnd | none => .ok ([], p)

/-- `printf()` -/
def printf (text : List UInt8) : Proc S := { p with stdout := p.stdout ++ text }

/-- `fflush(stdout)` -/
def fflush : Except Ending (Proc S) :=
  if p.stdout = [] then .ok p
  else ({ p with stdout := [] } : Proc S).write stdoutFileno p.stdout

/-- `exit()` flushes `stdout`. -/
def exit (status : ℤ) : Ending × Proc S :=
  match p.fflush with
  | .error e => (e, p)
  | .ok p => (.exited status, p)

end Proc

/-! ### What the calls do -/

section Calls
variable {p : Proc S} {f : S} {d n : ℕ} {data : List UInt8}

theorem write_given (h : file p.files d = some (.given f)) :
    p.write d data = ((p.sink f).write p.ignoresSigpipe data).map fun taken =>
      { p with written := p.written ++ [(f, taken)] } := by
  rw [Proc.write, h]

/-- The pipe has room for what is printed. -/
theorem write_pipe (h : file p.files d = some .writeEnd)
    (hreader : anyOpen File.isReadEnd p.files = true)
    (hroom : p.pipe.length + data.length ≤ pipeBuf) :
    p.write d data = .ok { p with pipe := p.pipe ++ data } := by
  rw [Proc.write, h]
  simp only [hreader, if_true, if_pos hroom]

theorem write_broken (h : file p.files d = some .writeEnd)
    (hreader : anyOpen File.isReadEnd p.files = false) :
    p.write d data = if p.ignoresSigpipe then .ok p else .error .killed := by
  rw [Proc.write, h]
  simp only [hreader, Bool.false_eq_true, if_false]

theorem write_closed (h : file p.files d = none) : p.write d data = .ok p := by
  rw [Proc.write, h]

theorem read_pipe (h : file p.files d = some .readEnd) (hpipe : p.pipe ≠ []) :
    p.read d n = .ok (p.pipe.take n, { p with pipe := p.pipe.drop n }) := by
  rw [Proc.read, h]
  exact if_pos hpipe

/-- Without a writer the end of the pipe is read. -/
theorem read_end (h : file p.files d = some .readEnd) (hpipe : p.pipe = [])
    (hwriter : anyOpen File.isWriteEnd p.files = false) : p.read d n = .ok ([], p) := by
  rw [Proc.read, h]
  simp only [hpipe, ne_eq, not_true_eq_false, if_false, hwriter, Bool.false_eq_true]

theorem read_writeEnd (h : file p.files d = some .writeEnd) : p.read d n = .ok ([], p) := by
  rw [Proc.read, h]

theorem fflush_empty (h : p.stdout = []) : p.fflush = .ok p := if_pos h

theorem fflush_printf (h : p.stdout = []) {text : List UInt8} (htext : text ≠ []) :
    (p.printf text).fflush = p.write stdoutFileno text := by
  have hstdout : (p.printf text).stdout = text := by
    rw [Proc.printf, h, List.nil_append]
  rw [Proc.fflush, hstdout, if_neg htext]
  cases p
  cases h
  rfl

end Calls

/-! ## The program -/

/-- What is printed into the pipe. -/
def ceci : List UInt8 := literal "ceci n'est pas une pipe"

/-- The line that tells what was read. -/
def line (text : List UInt8) : List UInt8 := literal "read: " ++ text ++ literal "\n"

/-- Standard output becomes the pipe. -/
def redirect (writeEnd : ℕ) (p : Proc S) : Proc S :=
  (p.dup2 (some writeEnd) stdoutFileno).close writeEnd

/-- Standard output becomes what it was, and tells what was read.  The buffer has zeros
wherever nothing was read into it. -/
def report (savedStdout : Option ℕ) (data : List UInt8) (p : Proc S) : Ending × Proc S :=
  let p := p.dup2 savedStdout stdoutFileno
  match cString (overwrite data (List.replicate (maxLen + 1) 0)) with
  | none => (.undefined, p)
  | some s => (p.printf (line s)).exit 0

/-- `main()` behind `pipe()` -/
def capture (savedStdout : Option ℕ) (readEnd writeEnd : ℕ) (p : Proc S) : Ending × Proc S :=
  match ((redirect writeEnd p).printf ceci).fflush with
  | .error e => (e, (redirect writeEnd p).printf ceci)
  | .ok p =>
    match p.read readEnd maxLen with
    | .error e => (e, p)
    | .ok (data, p) => report savedStdout data p

/-- `main()` -/
def main (p : Proc S) : Ending × Proc S :=
  match (p.dup stdoutFileno).2.makePipe with
  | none => (p.dup stdoutFileno).2.exit 1
  | some (readEnd, writeEnd, q) => capture (p.dup stdoutFileno).1 readEnd writeEnd q

/-- The process as it is started, with a table of descriptors. -/
def start (t : Files S) (sink : S → Sink) (input : S → List UInt8) (ignoresSigpipe : Bool) :
    Proc S where
  files := t.map (Option.map .given)
  pipe := []
  stdout := []
  written := []
  sink := sink
  input := input
  ignoresSigpipe := ignoresSigpipe

/-- The text comes back out of the buffer. -/
theorem cString_ceci :
    cString (overwrite ceci (List.replicate (maxLen + 1) 0)) = some ceci :=
  cString_append_nul (by decide : 0 ∉ ceci)

theorem line_ne_nil (text : List UInt8) : line text ≠ [] := by
  rw [line, List.append_assoc]
  exact List.append_ne_nil_of_left_ne_nil (by decide) _

/-- What becomes of the process at its last `write()`. -/
def lastEnding : Except Ending (List UInt8) → Ending
  | .ok _ => .exited 0
  | .error e => e

/-- What that has told to a file. -/
def told (f : S) : Except Ending (List UInt8) → List (S × List UInt8)
  | .ok taken => [(f, taken)]
  | .error _ => []

/-- The last `write()` decides how the process ends. -/
theorem report_eq {saved : Option ℕ} {data s : List UInt8} {p : Proc S} (hstdout : p.stdout = [])
    (hs : cString (overwrite data (List.replicate (maxLen + 1) 0)) = some s) :
    report saved data p =
      match (p.dup2 saved stdoutFileno).write stdoutFileno (line s) with
      | .error e => (e, (p.dup2 saved stdoutFileno).printf (line s))
      | .ok q => (.exited 0, q) := by
  have hflush : ((p.dup2 saved stdoutFileno).printf (line s)).fflush =
      (p.dup2 saved stdoutFileno).write stdoutFileno (line s) :=
    fflush_printf (p := p.dup2 saved stdoutFileno) hstdout (line_ne_nil s)
  rw [report, hs]
  show ((p.dup2 saved stdoutFileno).printf (line s)).exit 0 = _
  rw [Proc.exit, hflush]

/-- Where nothing was read the buffer is empty. -/
theorem report_nothing {saved : Option ℕ} {p q : Proc S} (hstdout : p.stdout = [])
    (hwrite : (p.dup2 saved stdoutFileno).write stdoutFileno (line []) = .ok q) :
    report saved [] p = (.exited 0, q) := by
  have hempty : cString (overwrite ([] : List UInt8) (List.replicate (maxLen + 1) 0)) =
      some [] := by decide
  rw [report_eq hstdout hempty, hwrite]

theorem capture_of_write {saved : Option ℕ} {r w : ℕ} {data : List UInt8} {p q q' : Proc S}
    (hstdout : p.stdout = []) (hwrite : (redirect w p).write stdoutFileno ceci = .ok q)
    (hread : q.read r maxLen = .ok (data, q')) :
    capture saved r w p = report saved data q' := by
  have hflush : ((redirect w p).printf ceci).fflush = .ok q :=
    (fflush_printf (p := redirect w p) hstdout (by decide)).trans hwrite
  rw [capture, hflush]
  show (match q.read r maxLen with
    | .error e => (e, q)
    | .ok (data, p) => report saved data p) = _
  rw [hread]

theorem redirect_eq {w : ℕ} {p : Proc S} {f : File S} (hw : file p.files w = some f) :
    redirect w p = { p with files := (p.files.set stdoutFileno (some f)).set w none } := by
  show ({ p with files := (DescriptorTable.dup2 p.files w stdoutFileno).set w none } : Proc S) = _
  rw [DescriptorTable.dup2, hw]

/-! ### The three ways it goes -/

section Ways
variable {p : Proc S} {f : S} {r w : ℕ}

/-- With an open standard output the text comes back, and the old file is told of it. -/
theorem capture_restored {a : ℕ} (hpipe : p.pipe = []) (hstdout : p.stdout = [])
    (hlen : stdoutFileno < p.files.length) (hw : file p.files w = some .writeEnd)
    (hr : file p.files r = some .readEnd) (ha : file p.files a = some (.given f))
    (hw1 : w ≠ stdoutFileno) (hr1 : r ≠ stdoutFileno) (ha1 : a ≠ stdoutFileno) :
    (capture (some a) r w p).1 = lastEnding ((p.sink f).write p.ignoresSigpipe (line ceci)) ∧
    (capture (some a) r w p).2.written =
      p.written ++ told f ((p.sink f).write p.ignoresSigpipe (line ceci)) ∧
    (capture (some a) r w p).2.files =
      ((p.files.set stdoutFileno (some .writeEnd)).set w none).set stdoutFileno
        (some (.given f)) := by
  have hrw : r ≠ w := by
    rintro rfl
    rw [hr] at hw
    cases hw
  have haw : a ≠ w := by
    rintro rfl
    rw [ha] at hw
    cases hw
  generalize hfiles : (p.files.set stdoutFileno (some .writeEnd)).set w none = files
  have hredirect : redirect w p = { p with files := files } := by rw [redirect_eq hw, hfiles]
  have hout : file files stdoutFileno = some .writeEnd := by
    rw [← hfiles, file_set_of_ne hw1.symm, file_set_self hlen]
  have hread : file files r = some .readEnd := by
    rw [← hfiles, file_set_of_ne hrw, file_set_of_ne hr1, hr]
  have hsaved : file files a = some (.given f) := by
    rw [← hfiles, file_set_of_ne haw, file_set_of_ne ha1, ha]
  have hlen' : stdoutFileno < files.length := by rwa [← hfiles, List.length_set, List.length_set]
  have hwrite : (redirect w p).write stdoutFileno ceci =
      .ok { p with files := files, pipe := ceci } := by
    rw [hredirect, write_pipe hout (anyOpen_iff.mpr ⟨r, _, hread, rfl⟩)]
    · show Except.ok { p with files := files, pipe := p.pipe ++ ceci } = _
      rw [hpipe, List.nil_append]
    · show p.pipe.length + ceci.length ≤ pipeBuf
      rw [hpipe]
      decide
  have hback : ({ p with files := files, pipe := ceci } : Proc S).read r maxLen =
      .ok (ceci, { p with files := files }) := by
    refine (read_pipe hread (show ceci ≠ [] by decide)).trans ?_
    show Except.ok
      (ceci.take maxLen, ({ p with files := files, pipe := ceci.drop maxLen } : Proc S)) = _
    rw [show ceci.drop maxLen = p.pipe from hpipe ▸ rfl]
    rfl
  have hrestore : ({ p with files := files } : Proc S).dup2 (some a) stdoutFileno =
      { p with files := files.set stdoutFileno (some (.given f)) } := by
    show ({ p with files := DescriptorTable.dup2 files a stdoutFileno } : Proc S) = _
    rw [DescriptorTable.dup2, hsaved]
  have hlast : (({ p with files := files } : Proc S).dup2 (some a) stdoutFileno).write stdoutFileno
      (line ceci) = ((p.sink f).write p.ignoresSigpipe (line ceci)).map fun taken =>
        { p with files := files.set stdoutFileno (some (.given f))
                 written := p.written ++ [(f, taken)] } := by
    rw [hrestore]
    exact write_given (file_set_self hlen')
  rw [capture_of_write hstdout hwrite hback,
    report_eq (p := { p with files := files }) hstdout cString_ceci, hlast, hrestore]
  cases (p.sink f).write p.ignoresSigpipe (line ceci) with
  | ok taken => exact ⟨rfl, rfl, rfl⟩
  | error e => exact ⟨rfl, (List.append_nil _).symm, rfl⟩

/-- If the write end has taken the place of the read end, nobody can read the text. -/
theorem capture_broken (hstdout : p.stdout = []) (hlen : stdoutFileno < p.files.length)
    (hw : file p.files w = some .writeEnd) (hw1 : w ≠ stdoutFileno)
    (hr : ∀ d, d ≠ stdoutFileno → file p.files d ≠ some .readEnd) :
    (capture none stdoutFileno w p).1 = (if p.ignoresSigpipe then .exited 0 else .killed) ∧
    (capture none stdoutFileno w p).2.written = p.written ∧
    (capture none stdoutFileno w p).2.files =
      (p.files.set stdoutFileno (some .writeEnd)).set w none := by
  generalize hfiles : (p.files.set stdoutFileno (some .writeEnd)).set w none = files
  have hredirect : redirect w p = { p with files := files } := by rw [redirect_eq hw, hfiles]
  have hout : file files stdoutFileno = some .writeEnd := by
    rw [← hfiles, file_set_of_ne hw1.symm, file_set_self hlen]
  have hreader : anyOpen File.isReadEnd files = false := by
    refine anyOpen_eq_false fun d f hd hf => ?_
    obtain rfl : f = .readEnd := by
      cases f <;> first | rfl | cases hf
    have hd1 : d ≠ stdoutFileno := by
      rintro rfl
      rw [hout] at hd
      cases hd
    have hdw : d ≠ w := by
      rintro rfl
      rw [← hfiles, file_set] at hd
      split at hd
      · cases hd
      · rw [file_set_of_ne hd1] at hd
        exact hr _ hd1 hd
    rw [← hfiles, file_set_of_ne hdw, file_set_of_ne hd1] at hd
    exact hr d hd1 hd
  cases hignores : p.ignoresSigpipe with
  | false =>
    have hflush : ((redirect w p).printf ceci).fflush = .error .killed := by
      refine (fflush_printf (p := redirect w p) hstdout (by decide)).trans ?_
      rw [hredirect]
      refine (write_broken hout hreader).trans ?_
      show (if p.ignoresSigpipe = true then _ else _) = _
      rw [hignores]
      rfl
    rw [capture, hflush, hredirect]
    exact ⟨rfl, rfl, rfl⟩
  | true =>
    have hbroken (text : List UInt8) :
        ({ p with files := files } : Proc S).write stdoutFileno text =
          .ok { p with files := files } := by
      refine (write_broken hout hreader).trans ?_
      exact if_pos hignores
    have hwrite : (redirect w p).write stdoutFileno ceci = .ok { p with files := files } := by
      rw [hredirect]
      exact hbroken ceci
    have hend : capture none stdoutFileno w p = (.exited 0, { p with files := files }) := by
      rw [capture_of_write hstdout hwrite (read_writeEnd hout)]
      exact report_nothing hstdout (hbroken _)
    rw [hend]
    exact ⟨rfl, rfl, rfl⟩

/-- If the write end is standard output itself, it is closed with it. -/
theorem capture_closed (hpipe : p.pipe = []) (hstdout : p.stdout = [])
    (hw : file p.files stdoutFileno = some .writeEnd) (hr : file p.files r = some .readEnd)
    (hwriter : ∀ d, d ≠ stdoutFileno → file p.files d ≠ some .writeEnd) :
    capture none r stdoutFileno p = (.exited 0, { p with
      files := p.files.set stdoutFileno none }) := by
  generalize hfiles : p.files.set stdoutFileno none = files
  have hredirect : redirect stdoutFileno p = { p with files := files } := by
    rw [redirect_eq hw, List.set_set, hfiles]
  have hout : file files stdoutFileno = none := by
    rw [← hfiles, file_set_self (lt_length_of_file hw)]
  have hread : file files r = some .readEnd := by
    have hr1 : r ≠ stdoutFileno := by
      rintro rfl
      rw [hr] at hw
      cases hw
    rw [← hfiles, file_set_of_ne hr1, hr]
  have hnone : anyOpen File.isWriteEnd files = false := by
    refine anyOpen_eq_false fun d f hd hf => ?_
    obtain rfl : f = .writeEnd := by
      cases f <;> first | rfl | cases hf
    have hd1 : d ≠ stdoutFileno := by
      rintro rfl
      rw [hout] at hd
      cases hd
    rw [← hfiles, file_set_of_ne hd1] at hd
    exact hwriter d hd1 hd
  have hlost (text : List UInt8) : ({ p with files := files } : Proc S).write stdoutFileno text =
      .ok { p with files := files } := write_closed hout
  have hwrite : (redirect stdoutFileno p).write stdoutFileno ceci =
      .ok { p with files := files } := by
    rw [hredirect]
    exact hlost ceci
  rw [capture_of_write hstdout hwrite (read_end hread hpipe hnone)]
  exact report_nothing hstdout (hlost _)

end Ways

/-! ## What becomes of it -/

/-- What can be seen of a run. -/
structure Outcome (S : Type*) where
  ending : Ending
  written : List (S × List UInt8)
  /-- How many more descriptors are open at the end. -/
  taken : ℕ

/-- What becomes of a process that is started with a table of descriptors. -/
def outcome (t : Files S) (sink : S → Sink) (ignoresSigpipe : Bool) : Outcome S :=
  match file t stdoutFileno with
  | some f =>
    if 3 ≤ room t then
      ⟨lastEnding ((sink f).write ignoresSigpipe (line ceci)),
        told f ((sink f).write ignoresSigpipe (line ceci)), 2⟩
    else ⟨.exited 1, [], min 1 (room t)⟩
  | none =>
    if room t < 2 then ⟨.exited 1, [], 0⟩
    -- the read end is descriptor 1, and the write end takes its place
    else if (file t 0).isSome && !ignoresSigpipe then ⟨.killed, [], 1⟩
    -- nothing is left of what is printed
    else ⟨.exited 0, [], 1⟩

/-- A run has the outcome, and has left the open descriptors on their files. -/
structure Meets (t : Files S) (o : Outcome S) (e : Ending × Proc S) : Prop where
  ending : e.1 = o.ending
  written : e.2.written = o.written
  room : room e.2.files + o.taken = room t
  kept : ∀ d f, file t d = some f → file e.2.files d = some (.given f)

section Start
variable {t : Files S} {f : S} (sink : S → Sink) (input : S → List UInt8) (ignores : Bool)

theorem file_start {d : ℕ} : file (start t sink input ignores).files d = (file t d).map .given :=
  file_map

/-- Without room the process ends at `pipe()`. -/
theorem main_of_pipe_eq_none {saved : Option ℕ} {p q : Proc S}
    (hdup : p.dup stdoutFileno = (saved, q)) (hstdout : q.stdout = []) (hroom : room q.files < 2) :
    main p = (.exited 1, q) := by
  have hpipe : q.makePipe = none := by
    rw [Proc.makePipe, pipe_eq_none hroom]
    rfl
  rw [main, hdup, hpipe]
  show q.exit 1 = _
  rw [Proc.exit, fflush_empty hstdout]

/-- With room for a pipe it goes on behind it. -/
theorem main_of_pipe {saved : Option ℕ} {p q : Proc S} (hdup : p.dup stdoutFileno = (saved, q))
    (hroom : 2 ≤ room q.files) :
    ∃ r w u files, Opens q.files r .readEnd u ∧ Opens u w .writeEnd files ∧
      main p = capture saved r w { q with files := files } := by
  obtain ⟨r, w, u, files, hpipe, hr, hw⟩ := exists_pipe (.readEnd : File S) .writeEnd hroom
  refine ⟨r, w, u, files, hr, hw, ?_⟩
  have hmake : q.makePipe = some (r, w, { q with files := files }) := by
    rw [Proc.makePipe, hpipe]
    rfl
  rw [main, hdup, hmake]

theorem dup_closed (h : file t stdoutFileno = none) :
    (start t sink input ignores).dup stdoutFileno = (none, start t sink input ignores) := by
  have hfile : file (start t sink input ignores).files stdoutFileno = none := by
    rw [file_start, h]
    rfl
  rw [Proc.dup, DescriptorTable.dup, hfile]
  rfl

theorem dup_full (h : room t = 0) :
    (start t sink input ignores).dup stdoutFileno = (none, start t sink input ignores) := by
  have hroom : room (start t sink input ignores).files = 0 := room_map.trans h
  rw [Proc.dup, DescriptorTable.dup]
  rcases file (start t sink input ignores).files stdoutFileno with - | f
  · rfl
  · rw [Option.bind_some, alloc_eq_none hroom]

theorem room_start : room (start t sink input ignores).files = room t := room_map

theorem file_start_of_file {d : ℕ} (h : file t d = some f) :
    file (start t sink input ignores).files d = some (.given f) := by
  rw [file_start, h]
  rfl

theorem exists_dup (h : file t stdoutFileno = some f) (hroom : 0 < room t) :
    ∃ a files, Opens (start t sink input ignores).files a (.given f) files ∧
      (start t sink input ignores).dup stdoutFileno =
        (some a, { start t sink input ignores with files := files }) := by
  obtain ⟨a, files, halloc, ha⟩ := exists_alloc (t := (start t sink input ignores).files) (.given f)
    (by rwa [room_start])
  refine ⟨a, files, ha, ?_⟩
  rw [Proc.dup, DescriptorTable.dup, file_start_of_file sink input ignores h, Option.bind_some,
    halloc]

/-- A process that has only just been started has no end of a pipe. -/
theorem file_start_given {d : ℕ} {x : File S}
    (h : file (start t sink input ignores).files d = some x) :
    ∃ f, x = .given f := by
  rw [file_start] at h
  obtain ⟨f, -, rfl⟩ := Option.map_eq_some_iff.mp h
  exact ⟨f, rfl⟩

theorem meets_open (h : file t stdoutFileno = some f) (hroom : 3 ≤ room t) :
    Meets t ⟨lastEnding ((sink f).write ignores (line ceci)),
      told f ((sink f).write ignores (line ceci)), 2⟩ (main (start t sink input ignores)) := by
  have hout := file_start_of_file sink input ignores h
  obtain ⟨a, G, ha, hdup⟩ := exists_dup sink input ignores h (by omega)
  have hroomG := ha.room
  rw [room_start] at hroomG
  obtain ⟨r, w, U, P, hr, hw, hmain⟩ := main_of_pipe hdup (show 2 ≤ room G by omega)
  have hroomU : room U + 1 = room G := hr.room
  have hroomP := hw.room
  have hkept {d : ℕ} {x : File S} (hd : file G d = some x) : file P d = some x :=
    hw.kept (hr.kept hd)
  obtain ⟨hending, hwritten, hfiles⟩ :=
    capture_restored (p := { start t sink input ignores with files := P }) rfl rfl
    (lt_length_of_file (hkept (ha.kept hout))) hw.self (hw.kept hr.self) (hkept ha.self)
    (hw.ne (hr.kept (ha.kept hout))).symm (hr.ne (ha.kept hout)).symm (ha.ne hout).symm
  rw [hmain]
  have hw1 := hw.ne (hr.kept (ha.kept hout))
  have hwOpen : file (P.set stdoutFileno (some .writeEnd)) w = some .writeEnd := by
    rw [file_set_of_ne hw1.symm, hw.self]
  refine ⟨hending, hwritten, ?_, fun d g hd => ?_⟩
  · rw [hfiles]
    show room (((P.set stdoutFileno (some .writeEnd)).set w none).set stdoutFileno
      (some (.given f))) + 2 = room t
    have hput := room_replace (g := (.writeEnd : File S)) (hkept (ha.kept hout))
    have hclosed := room_close hwOpen
    have hback : file ((P.set stdoutFileno (some .writeEnd)).set w none) stdoutFileno =
        some .writeEnd := by
      rw [file_set_of_ne hw1, file_set_self (lt_length_of_file (hkept (ha.kept hout)))]
    rw [room_replace hback]
    omega
  · have hd' := hkept (ha.kept (file_start_of_file sink input ignores hd))
    rw [hfiles]
    show file (((P.set stdoutFileno (some .writeEnd)).set w none).set stdoutFileno
      (some (.given f))) d = _
    rcases eq_or_ne d stdoutFileno with rfl | hd1
    · obtain rfl : f = g := Option.some.inj (h.symm.trans hd)
      refine file_set_self ?_
      rw [List.length_set, List.length_set]
      exact lt_length_of_file hd'
    · have hdw : d ≠ w := hw.ne (hr.kept (ha.kept (file_start_of_file sink input ignores hd)))
      rw [file_set_of_ne hd1, file_set_of_ne hdw, file_set_of_ne hd1, hd']

theorem meets_full (h : file t stdoutFileno = some f) (hroom : room t < 3) :
    Meets t ⟨.exited 1, [], min 1 (room t)⟩ (main (start t sink input ignores)) := by
  rcases Nat.eq_zero_or_pos (room t) with hzero | hpos
  · rw [main_of_pipe_eq_none (dup_full sink input ignores hzero) rfl
      ((room_start sink input ignores).trans_lt (by omega))]
    refine ⟨rfl, rfl, ?_, fun d g => file_start_of_file sink input ignores⟩
    rw [room_start]
    show room t + min 1 (room t) = room t
    omega
  · obtain ⟨a, files, ha, hdup⟩ := exists_dup sink input ignores h hpos
    have hfull := ha.room
    rw [room_start] at hfull
    rw [main_of_pipe_eq_none hdup rfl (show room files < 2 by omega)]
    refine ⟨rfl, rfl, ?_, fun d g hd => ha.kept (file_start_of_file sink input ignores hd)⟩
    show room files + min 1 (room t) = room t
    omega

theorem meets_full_closed (h : file t stdoutFileno = none) (hroom : room t < 2) :
    Meets t ⟨.exited 1, [], 0⟩ (main (start t sink input ignores)) := by
  rw [main_of_pipe_eq_none (dup_closed sink input ignores h) rfl
    ((room_start sink input ignores).trans_lt hroom)]
  exact ⟨rfl, rfl, room_start sink input ignores, fun d f => file_start_of_file sink input ignores⟩

/-- Descriptor 1 is the next one to be opened, or the one behind it. -/
theorem stdout_mem_free (h : file t stdoutFileno = none) (hroom : 2 ≤ room t) :
    stdoutFileno ∈ Free (start t sink input ignores).files := by
  have hlen : room (start t sink input ignores).files ≤ (start t sink input ignores).files.length :=
    room_le_length
  rw [room_start] at hlen
  refine free_of_file_eq_none ?_ (show 1 < _ by omega)
  rw [file_start, h]
  rfl

theorem meets_broken {g : S} (h : file t stdoutFileno = none) (h0 : file t 0 = some g)
    (hroom : 2 ≤ room t) :
    Meets t ⟨if ignores then .exited 0 else .killed, [], 1⟩ (main (start t sink input ignores)) := by
  obtain ⟨r, w, U, P, hr, hw, hmain⟩ :=
    main_of_pipe (dup_closed sink input ignores h) (by rwa [room_start])
  have hroomU := hr.room
  have hroomP := hw.room
  rw [room_start] at hroomU
  obtain rfl : stdoutFileno = r := by
    have hle : r ≤ 1 := hr.least.2 (stdout_mem_free sink input ignores h hroom)
    have hne : 0 ≠ r := hr.ne (file_start_of_file sink input ignores h0)
    show 1 = r
    omega
  have hw1 : stdoutFileno ≠ w := hw.ne hr.self
  have hread := hw.kept hr.self
  have hend := capture_broken (p := { start t sink input ignores with files := P }) rfl
    (lt_length_of_file hread) hw.self hw1.symm fun d hd1 hd => by
      rcases eq_or_ne d w with rfl | hdw
      · rw [hw.self] at hd
        cases hd
      · rw [hw.other d hdw, hr.other d hd1] at hd
        obtain ⟨f, hf⟩ := file_start_given sink input ignores hd
        cases hf
  obtain ⟨hending, hwritten, hfiles⟩ := hend
  rw [hmain]
  refine ⟨hending, hwritten, ?_, fun d f hd => ?_⟩
  · have hput := room_replace (g := (.writeEnd : File S)) hread
    have hwOpen : file (P.set stdoutFileno (some .writeEnd)) w = some .writeEnd := by
      rw [file_set_of_ne hw1.symm, hw.self]
    have hclosed := room_close hwOpen
    rw [hfiles]
    show room ((P.set stdoutFileno (some .writeEnd)).set w none) + 1 = room t
    omega
  · have hd1 : d ≠ stdoutFileno := by
      rintro rfl
      rw [h] at hd
      cases hd
    have hd' := hr.kept (file_start_of_file sink input ignores hd)
    rw [hfiles, file_set_of_ne (hw.ne hd'), file_set_of_ne hd1]
    exact hw.kept hd'

theorem meets_closed (h : file t stdoutFileno = none) (h0 : file t 0 = none)
    (hroom : 2 ≤ room t) : Meets t ⟨.exited 0, [], 1⟩ (main (start t sink input ignores)) := by
  obtain ⟨r, w, U, P, hr, hw, hmain⟩ :=
    main_of_pipe (dup_closed sink input ignores h) (by rwa [room_start])
  have hroomU := hr.room
  have hroomP := hw.room
  rw [room_start] at hroomU
  have hfree1 := stdout_mem_free sink input ignores h hroom
  have hfree0 : 0 ∈ Free (start t sink input ignores).files := by
    refine free_of_file_eq_none ?_ (Nat.zero_lt_of_lt (lt_length_of_free hfree1))
    rw [file_start, h0]
    rfl
  obtain rfl : r = 0 := Nat.le_zero.mp (hr.least.2 hfree0)
  obtain rfl : w = stdoutFileno := by
    have hle : w ≤ 1 := hw.least.2 (hr.free ▸ ⟨hfree1, by decide⟩)
    have hne : 0 ≠ w := hw.ne hr.self
    show w = 1
    omega
  have hend := capture_closed (p := { start t sink input ignores with files := P }) rfl rfl
    hw.self (hw.kept hr.self) fun d hd1 hd => by
      rw [hw.other d hd1] at hd
      rcases eq_or_ne d 0 with rfl | hd0
      · rw [hr.self] at hd
        cases hd
      · rw [hr.other d hd0] at hd
        obtain ⟨f, hf⟩ := file_start_given sink input ignores hd
        cases hf
  rw [hmain, hend]
  refine ⟨rfl, rfl, ?_, fun d f hd => ?_⟩
  · have hclosed := room_close hw.self
    show room (P.set stdoutFileno none) + 1 = room t
    omega
  · have hd1 : d ≠ stdoutFileno := by
      rintro rfl
      rw [h] at hd
      cases hd
    show file (P.set stdoutFileno none) d = _
    rw [file_set_of_ne hd1]
    exact hw.kept (hr.kept (file_start_of_file sink input ignores hd))

/-- **What becomes of the process**, for every table of descriptors that it is started with, and
whatever the files do with a text.  If standard output is open and three descriptors are free, its
file is told of the text, or of as much of it as it takes, the process exits with 0, and two more
descriptors are open then; but where nobody reads that file `SIGPIPE` kills the process, unless
that is ignored, and where the file has no room the process waits.  With less room the process
exits with 1.  If standard output is closed, nothing is told to anybody, and if standard input is
open `SIGPIPE` kills the process, unless that is ignored.  The process never waits for its own
pipe, and the descriptors that were open are open on their files. -/
theorem main_outcome (t : Files S) (sink : S → Sink) (input : S → List UInt8) (ignores : Bool) :
    Meets t (outcome t sink ignores) (main (start t sink input ignores)) := by
  unfold outcome
  cases h : file t stdoutFileno with
  | some f =>
    show Meets t (if 3 ≤ room t then _ else _) _
    split
    · next hroom => exact meets_open sink input ignores h hroom
    · next hroom => exact meets_full sink input ignores h (by omega)
  | none =>
    show Meets t (if room t < 2 then _ else _) _
    split
    · next hroom => exact meets_full_closed sink input ignores h hroom
    · next hroom =>
      cases h0 : file t 0 with
      | none => exact meets_closed sink input ignores h h0 (by omega)
      | some f =>
        have hbroken := meets_broken sink input ignores h h0 (by omega)
        cases ignores <;> exact hbroken

example : outcome [some (), some (), some (), none, none, none] (fun _ => .broken) false =
    ⟨.killed, [], 2⟩ := rfl

end Start

end SimpleTests.PipeRedirect
