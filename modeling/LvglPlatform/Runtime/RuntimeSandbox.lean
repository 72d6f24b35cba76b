import LvglPlatform.Foundation.Bpf

namespace LvglPlatform

open Foundation
open Foundation.Bpf

inductive Syscall
  | openat | mmap | mprotect | ioctl
  | read | write | readv | writev | close
  | lseek | pread64 | fstat | newfstatat | statx
  | faccessat | readlinkat | getcwd
  | munmap | mremap | madvise | brk
  | rtSigaction | rtSigprocmask | rtSigreturn
  | sigaltstack | ppoll | pselect6
  | clockGettime | clockNanosleep | nanosleep
  | futex | setTidAddress | setRobustList | rseq
  | prlimit64 | getrandom | getpid | getppid
  | gettid | getuid | geteuid | getgid | getegid
  | uname | sysinfo | getrusage | times
  | schedYield | schedGetaffinity
  | fcntl | dup | dup3
  | recvfrom | sendto | recvmsg | sendmsg
  | shutdown | getsockopt
  | fstatfs | statfs
  | eventfd2 | epollCreate1 | epollCtl | epollPwait
  | restartSyscall | exit | exitGroup
  deriving DecidableEq

/-- The constants of the kernel headers; different calls and answers have different numbers. -/
structure KernelConstants where
  number : Syscall → UInt32
  number_injective : number.Injective
  auditArchAarch64 : UInt32
  allow : UInt32
  kill : UInt32
  allow_ne_kill : allow ≠ kill
  oWronly : UInt32
  oRdwr : UInt32
  oCreat : UInt32
  oTrunc : UInt32
  oAppend : UInt32
  oExcl : UInt32
  oTmpfile : Option UInt32
  protExec : UInt32
  drmModeSetplane : UInt32
  drmModeRmfb : UInt32
  drmModeDestroyDumb : UInt32

structure SeccompData where
  nr : UInt32
  arch : UInt32
  instructionPointer : UInt64
  args : Fin 6 → UInt64

def low (n : UInt64) : UInt32 := n.toUInt32

def high (n : UInt64) : UInt32 := (n >>> 32).toUInt32

/-- The words of the structure in memory, by their offset. -/
def SeccompData.words (data : SeccompData) : List UInt32 :=
  [data.nr, data.arch, low data.instructionPointer, high data.instructionPointer] ++
    (List.ofFn data.args).flatMap fun arg => [low arg, high arg]

def SeccompData.word (data : SeccompData) (offset : UInt32) : Option UInt32 :=
  if offset.toNat % 4 = 0 then data.words[offset.toNat / 4]? else none

def nrOffset : UInt32 := 0

def archOffset : UInt32 := 4

def argsOffset (index : ℕ) : UInt32 := UInt32.ofNat (16 + 8 * index)

def allowedSyscalls : List Syscall :=
  [.read, .write, .readv, .writev, .close,
    .lseek, .pread64, .fstat, .newfstatat, .statx,
    .faccessat, .readlinkat, .getcwd,
    .munmap, .mremap, .madvise, .brk,
    .rtSigaction, .rtSigprocmask, .rtSigreturn,
    .sigaltstack, .ppoll, .pselect6,
    .clockGettime, .clockNanosleep, .nanosleep,
    .futex, .setTidAddress, .setRobustList, .rseq,
    .prlimit64, .getrandom, .getpid, .getppid,
    .gettid, .getuid, .geteuid, .getgid, .getegid,
    .uname, .sysinfo, .getrusage, .times,
    .schedYield, .schedGetaffinity,
    .fcntl, .dup, .dup3,
    .recvfrom, .sendto, .recvmsg, .sendmsg,
    .shutdown, .getsockopt,
    .fstatfs, .statfs,
    .eventfd2, .epollCreate1, .epollCtl, .epollPwait,
    .restartSyscall, .exit, .exitGroup]

namespace KernelConstants

variable (c : KernelConstants)

def allowedSyscall (syscall : Syscall) : List Instruction :=
  [.jumpEqual (c.number syscall) 0 1, .ret c.allow]

def flagRestrictedSyscall (syscall : Syscall) (argumentOffset forbidden : UInt32) : List Instruction :=
  [.jumpEqual (c.number syscall) 0 5,
    .load argumentOffset,
    .and forbidden,
    .jumpEqual 0 0 1,
    .ret c.allow,
    .ret c.kill]

def drmRequests : List UInt32 := [c.drmModeSetplane, c.drmModeRmfb, c.drmModeDestroyDumb]

def drmRequest (request : UInt32) : List Instruction := [.jumpEqual request 0 1, .ret c.allow]

def drmIoctlFilter (drmFd : Int32) : List Instruction :=
  let requestCount := c.drmRequests.length
  let blockInstructions := 4 + requestCount * 2
  [.jumpEqual (c.number .ioctl) 0 (UInt8.ofNat blockInstructions),
    .load (argsOffset 0),
    .jumpEqual drmFd.toUInt32 0 (UInt8.ofNat (1 + requestCount * 2)),
    .load (argsOffset 1)] ++
    c.drmRequests.flatMap c.drmRequest ++ [.ret c.kill]

def writeFlags : UInt32 :=
  c.oWronly ||| c.oRdwr ||| c.oCreat ||| c.oTrunc ||| c.oAppend ||| c.oExcl ||| c.oTmpfile.getD 0

def aarch64Filter (drmFd : Int32) : List Instruction :=
  [.load archOffset, .jumpEqual c.auditArchAarch64 1 0, .ret c.kill, .load nrOffset] ++
    (c.flagRestrictedSyscall .openat (argsOffset 2) c.writeFlags ++
    (c.flagRestrictedSyscall .mmap (argsOffset 2) c.protExec ++
    (c.flagRestrictedSyscall .mprotect (argsOffset 2) c.protExec ++
    (c.drmIoctlFilter drmFd ++
    (allowedSyscalls.flatMap c.allowedSyscall ++ [.ret c.kill])))))

/-- The program handed to the kernel; its length is sixteen bits wide. -/
def installAarch64Filter (drmFd : Int32) : Option (List Instruction) :=
  let filter := c.aarch64Filter drmFd
  if filter.length > 65535 then none else some filter

/-- The calls the filter is meant to let through. -/
def Permitted (drmFd : Int32) (call : SeccompData) : Prop :=
  call.arch = c.auditArchAarch64 ∧
    ((∃ syscall ∈ allowedSyscalls, call.nr = c.number syscall) ∨
      (call.nr = c.number .openat ∧ low (call.args 2) &&& c.writeFlags = 0) ∨
      ((call.nr = c.number .mmap ∨ call.nr = c.number .mprotect) ∧
        low (call.args 2) &&& c.protExec = 0) ∨
      (call.nr = c.number .ioctl ∧ low (call.args 0) = drmFd.toUInt32 ∧
        low (call.args 1) ∈ c.drmRequests))

section

variable {c} {word : UInt32 → Option UInt32} {rest : List Instruction} {accumulator : UInt32}

lemma run_allowedSyscall (syscall : Syscall) :
    run word 0 (c.allowedSyscall syscall ++ rest) accumulator =
      if accumulator = c.number syscall then some c.allow else run word 0 rest accumulator := by
  rw [allowedSyscall, List.cons_append, run_jumpEqual]
  rfl

lemma run_allowedSyscalls (syscalls : List Syscall) :
    run word 0 (syscalls.flatMap c.allowedSyscall ++ rest) accumulator =
      if ∃ syscall ∈ syscalls, accumulator = c.number syscall then some c.allow
      else run word 0 rest accumulator := by
  induction syscalls with
  | nil => simp
  | cons syscall syscalls ih =>
    rw [List.flatMap_cons, List.append_assoc, run_allowedSyscall, ih]
    by_cases h : accumulator = c.number syscall <;> simp [h]

lemma run_flagRestrictedSyscall {syscall : Syscall} {offset forbidden argument : UInt32}
    (hargument : word offset = some argument) :
    run word 0 (c.flagRestrictedSyscall syscall offset forbidden ++ rest) accumulator =
      if accumulator = c.number syscall then
        some (if argument &&& forbidden = 0 then c.allow else c.kill)
      else run word 0 rest accumulator := by
  simp only [flagRestrictedSyscall, List.cons_append, List.nil_append]
  rw [run_jumpEqual]
  refine if_congr Iff.rfl ?_ rfl
  change run word 0 (.load offset :: _) accumulator = _
  rw [run_load hargument, run_and, run_jumpEqual]
  split <;> rfl

lemma run_drmRequests (requests : List UInt32) :
    run word 0 (requests.flatMap c.drmRequest ++ .ret c.kill :: rest) accumulator =
      some (if accumulator ∈ requests then c.allow else c.kill) := by
  induction requests with
  | nil => rfl
  | cons request requests ih =>
    simp only [List.flatMap_cons, drmRequest, List.cons_append, List.nil_append]
    rw [run_jumpEqual]
    by_cases h : accumulator = request
    · rw [if_pos h, if_pos (by simp [h])]
      rfl
    · rw [if_neg h]
      change run word 0 (requests.flatMap c.drmRequest ++ .ret c.kill :: rest) accumulator = _
      rw [ih]
      simp [h]

lemma run_drmIoctlFilter {drmFd : Int32} {descriptor request : UInt32}
    (hdescriptor : word (argsOffset 0) = some descriptor)
    (hrequest : word (argsOffset 1) = some request) :
    run word 0 (c.drmIoctlFilter drmFd ++ rest) accumulator =
      if accumulator = c.number .ioctl then
        some (if descriptor = drmFd.toUInt32 ∧ request ∈ c.drmRequests then c.allow else c.kill)
      else run word 0 rest accumulator := by
  rw [drmIoctlFilter]
  simp only [List.cons_append, List.nil_append, List.append_assoc]
  rw [run_jumpEqual]
  refine if_congr Iff.rfl ?_ rfl
  change run word 0 (.load (argsOffset 0) :: _) accumulator = _
  rw [run_load hdescriptor, run_jumpEqual]
  by_cases hfd : descriptor = drmFd.toUInt32
  · rw [if_pos hfd]
    change run word 0 (.load (argsOffset 1) :: _) descriptor = _
    rw [run_load hrequest, run_drmRequests]
    simp [hfd]
  · rw [if_neg hfd, if_neg fun h => hfd h.1]
    rfl

lemma word_nr (call : SeccompData) : call.word nrOffset = some call.nr := rfl

lemma word_arch (call : SeccompData) : call.word archOffset = some call.arch := rfl

lemma word_args (call : SeccompData) (index : Fin 6) :
    call.word (argsOffset index) = some (low (call.args index)) := by
  fin_cases index <;> rfl

lemma exec_aarch64Filter (drmFd : Int32) (call : SeccompData) [Decidable (c.Permitted drmFd call)] :
    exec call.word (c.aarch64Filter drmFd) =
      some (if c.Permitted drmFd call then c.allow else c.kill) := by
  have hlast : ∀ accumulator, run call.word 0 [.ret c.kill] accumulator = some c.kill := fun _ => rfl
  have hflags : call.word (argsOffset 2) = some (low (call.args 2)) := word_args call 2
  rw [exec, aarch64Filter]
  simp only [List.cons_append, List.nil_append]
  rw [run_load (word_arch call), run_jumpEqual]
  by_cases harch : call.arch = c.auditArchAarch64
  swap
  · rw [if_neg harch, if_neg fun h => harch h.1]
    rfl
  rw [if_pos harch]
  change run call.word 0 (.load nrOffset :: _) call.arch = _
  rw [run_load (word_nr call), run_flagRestrictedSyscall hflags, run_flagRestrictedSyscall hflags,
    run_flagRestrictedSyscall hflags, run_drmIoctlFilter (word_args call 0) (word_args call 1),
    run_allowedSyscalls, hlast]
  -- a restricted call is none of the others and not in the list
  have hnumber : ∀ a b, c.number a = c.number b ↔ a = b := fun _ _ => c.number_injective.eq_iff
  by_cases hopenat : call.nr = c.number .openat
  · have hlist : .openat ∉ allowedSyscalls := by decide
    simp [Permitted, harch, hopenat, hnumber, hlist]
  by_cases hmmap : call.nr = c.number .mmap
  · have hlist : .mmap ∉ allowedSyscalls := by decide
    simp [Permitted, harch, hmmap, hnumber, hlist]
  by_cases hmprotect : call.nr = c.number .mprotect
  · have hlist : .mprotect ∉ allowedSyscalls := by decide
    simp [Permitted, harch, hmprotect, hnumber, hlist]
  by_cases hioctl : call.nr = c.number .ioctl
  · have hlist : .ioctl ∉ allowedSyscalls := by decide
    simp [Permitted, harch, hioctl, hnumber, hlist]
  · by_cases hlist : ∃ syscall ∈ allowedSyscalls, call.nr = c.number syscall
    · simp [Permitted, harch, hopenat, hmmap, hmprotect, hioctl, hlist]
    · simp [Permitted, harch, hopenat, hmmap, hmprotect, hioctl, hlist]

lemma jumpsWithin_aarch64Filter (drmFd : Int32) :
    jumpsWithin 0 (c.aarch64Filter drmFd) = true := by
  have hlist : jumpsWithin 0 (allowedSyscalls.flatMap c.allowedSyscall ++ [.ret c.kill]) = true := by
    apply jumpsWithin_flatMap _ (fun _ _ => rfl) (by simp) rfl
  have hblock : ∀ {block rest : List Instruction}, jumpsWithin 1 block = true → rest ≠ [] →
      jumpsWithin 0 rest = true → jumpsWithin 0 (block ++ rest) = true := by
    intro block rest hblock hne hrest
    exact jumpsWithin_append (jumpsWithin_mono (List.length_pos_iff.mpr hne) hblock) hrest
  rw [aarch64Filter]
  refine hblock rfl (by simp) ?_
  refine hblock rfl (by simp) ?_
  refine hblock rfl (by simp) ?_
  refine hblock rfl (by simp) ?_
  exact hblock rfl (by simp) hlist

lemma aarch64Filter_length (drmFd : Int32) : (c.aarch64Filter drmFd).length = 160 := by
  have hlist : (allowedSyscalls.flatMap c.allowedSyscall).length = 63 * 2 := by
    have hblock : (fun syscall => (c.allowedSyscall syscall).length) = fun _ => 2 := rfl
    rw [List.length_flatMap, hblock, List.map_const', List.sum_replicate]
    rfl
  have hioctl : (c.drmIoctlFilter drmFd).length = 11 := rfl
  simp [aarch64Filter, flagRestrictedSyscall, hioctl, hlist]

end

end KernelConstants

def aarch64Number : Syscall → UInt32
  | .getcwd => 17 | .eventfd2 => 19 | .epollCreate1 => 20 | .epollCtl => 21 | .epollPwait => 22
  | .dup => 23 | .dup3 => 24 | .fcntl => 25 | .ioctl => 29 | .statfs => 43 | .fstatfs => 44
  | .faccessat => 48 | .openat => 56 | .close => 57 | .lseek => 62 | .read => 63 | .write => 64
  | .readv => 65 | .writev => 66 | .pread64 => 67 | .pselect6 => 72 | .ppoll => 73
  | .readlinkat => 78 | .newfstatat => 79 | .fstat => 80 | .exit => 93 | .exitGroup => 94
  | .setTidAddress => 96 | .futex => 98 | .setRobustList => 99 | .nanosleep => 101
  | .clockGettime => 113 | .clockNanosleep => 115 | .schedGetaffinity => 123 | .schedYield => 124
  | .restartSyscall => 128 | .sigaltstack => 132 | .rtSigaction => 134 | .rtSigprocmask => 135
  | .rtSigreturn => 139 | .times => 153 | .uname => 160 | .getrusage => 165 | .getpid => 172
  | .getppid => 173 | .getuid => 174 | .geteuid => 175 | .getgid => 176 | .getegid => 177
  | .gettid => 178 | .sysinfo => 179 | .sendto => 206 | .recvfrom => 207 | .getsockopt => 209
  | .shutdown => 210 | .sendmsg => 211 | .recvmsg => 212 | .brk => 214 | .munmap => 215
  | .mremap => 216 | .mmap => 222 | .mprotect => 226 | .madvise => 233 | .prlimit64 => 261
  | .getrandom => 278 | .statx => 291 | .rseq => 293

def aarch64Syscalls : List Syscall := [.openat, .mmap, .mprotect, .ioctl] ++ allowedSyscalls

lemma aarch64Number_injective : aarch64Number.Injective := by
  have hfound : ∀ syscall,
      aarch64Syscalls.find? (fun other => aarch64Number other = aarch64Number syscall) = some syscall := by
    intro syscall
    cases syscall <;> rfl
  intro a b h
  have ha := hfound a
  rw [h, hfound b] at ha
  exact (Option.some.inj ha).symm

def aarch64Constants : KernelConstants where
  number := aarch64Number
  number_injective := aarch64Number_injective
  auditArchAarch64 := 0xC00000B7
  allow := 0x7FFF0000
  kill := 0x80000000
  allow_ne_kill := by decide
  oWronly := 1
  oRdwr := 2
  oCreat := 64
  oTrunc := 512
  oAppend := 1024
  oExcl := 128
  oTmpfile := some 0x404000
  protExec := 4
  drmModeSetplane := 0xC03064B7
  drmModeRmfb := 0xC00464AF
  drmModeDestroyDumb := 0xC00464B4

/-- The filter is installed, its jumps land inside it, and it allows the permitted calls only. -/
theorem aarch64_filter_allows_exactly_permitted (c : KernelConstants) (drmFd : Int32) :
    ∃ filter, c.installAarch64Filter drmFd = some filter ∧ jumpsWithin 0 filter = true ∧
      ∀ call : SeccompData,
        (exec call.word filter = some c.allow ↔ c.Permitted drmFd call) ∧
        (¬ c.Permitted drmFd call → exec call.word filter = some c.kill) := by
  refine ⟨c.aarch64Filter drmFd, ?_, KernelConstants.jumpsWithin_aarch64Filter drmFd, fun call => ?_⟩
  · rw [KernelConstants.installAarch64Filter]
    exact if_neg (by rw [KernelConstants.aarch64Filter_length]; decide)
  · classical
    rw [KernelConstants.exec_aarch64Filter]
    by_cases h : c.Permitted drmFd call
    · simp [h]
    · simp [h, c.allow_ne_kill.symm]

/-- Mapping executable memory kills the process. -/
example : exec (SeccompData.word ⟨222, 0xC00000B7, 0, ![0, 4096, 5, 2, 0, 0]⟩)
    (aarch64Constants.aarch64Filter 7) = some aarch64Constants.kill := by
  decide

end LvglPlatform
