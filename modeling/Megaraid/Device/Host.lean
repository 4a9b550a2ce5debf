import Mathlib.Data.Stream.Init
import Megaraid.Device.Packet
import Megaraid.Foundation.Traced

/-!
# The tools and their surroundings

A tool talks to the kernel, to the megasas driver and to its terminal. What the
kernel answers to `open` and to the bus number ioctl is fixed for a run
(`Host`); the driver answers one passthrough ioctl after another, so its answers
are a stream (`DriverReply`). Every interaction is recorded as an `Event`, in
order.
-/

namespace Megaraid

/-- Local arrays whose address a tool hands to the driver. -/
inductive Local where
  | inqData
  | modeSelData
  | formatParam
  | sense
  | cap
  deriving DecidableEq, Repr

/-- Result of `SCSI_IOCTL_GET_BUS_NUMBER`, the number it stores on success, and the
text of `errno`. -/
structure BusReply where
  result : Int
  busNo : Int
  error : String
  deriving DecidableEq, Repr

/-- What a run finds around it, passthrough commands apart. -/
structure Host where
  /-- Result of `open(path, O_RDWR | O_NONBLOCK)` or, without the flag, `open(path, O_RDWR)`. -/
  openFile : String → (nonblock : Bool) → Int
  /-- The text of `errno` after that call. -/
  openError : String → (nonblock : Bool) → String
  busNumber : (fd : Int) → BusReply
  addressOf : Local → UInt64
  /-- What a local array holds before its first `memset`. -/
  uninitialized : Local → Nat → UInt8
  /-- `%.2f` of the capacity in terabytes, computed in `double`. -/
  terabytes : (lastLba blockSize : UInt32) → String

/-- A host on which everything opens, with the controller as host 0. -/
def Host.sample : Host where
  openFile := fun _ nonblock => if nonblock then 3 else 4
  openError := fun _ _ => "Success"
  busNumber := fun _ => ⟨0, 0, "Success"⟩
  addressOf := fun _ => 0x7FFC0000
  uninitialized := fun _ _ => 0xA5
  terabytes := fun _ _ => "0.00"

/-- A local array as it is declared. -/
def Host.array (host : Host) (which : Local) (n : Nat) : Buffer n :=
  ⟨host.addressOf which, Vector.ofFn fun i => host.uninitialized which i⟩

/-- The driver's answer to one passthrough ioctl: the result of the ioctl, the
`cmd_status` byte it copies back if it does, the bytes transferred into the
caller's buffer, and the text of `errno`. -/
structure DriverReply where
  result : Int
  cmdStatus : Option UInt8
  written : List UInt8
  error : String
  deriving DecidableEq, Repr

/-- A passthrough ioctl: the packet, the address of the caller's buffer and its
contents before the call, and the driver's answer. -/
structure Command where
  fd : Int
  ioc : MegasasIocpacket
  address : UInt64
  data : List UInt8
  reply : DriverReply

/-- The operation code of a command. -/
def Command.opcode (command : Command) : UInt8 := command.ioc.pthru.cdb[0]

/-- Everything a tool does to the outside. `perror` writes its own text and that of
`errno`. -/
inductive Event where
  | openFile (path : String) (nonblock : Bool) (fd : Int) (error : String)
  | getBusNumber (fd : Int) (reply : BusReply)
  | close (fd : Int)
  | firmware (command : Command)
  | sleep (seconds : Int)
  | stdout (text : String)
  | stderr (text : String)
  | perror (text error : String)
  | setLineBuffered

/-- A tool runs against the stream of the driver's answers. -/
abbrev Tool (α : Type) : Type := Traced (Stream' DriverReply) Event α

namespace Tool

@[simp] def openFile (host : Host) (path : String) (nonblock : Bool) : Tool Int :=
  Traced.interact (fun driver => (host.openFile path nonblock, driver))
    (fun fd => .openFile path nonblock fd (host.openError path nonblock))

@[simp] def getBusNumber (host : Host) (fd : Int) : Tool BusReply :=
  Traced.interact (fun driver => (host.busNumber fd, driver)) (.getBusNumber fd)

/-- `ioctl(fd, MEGASAS_IOC_FIRMWARE, &ioc)`. -/
@[simp] def firmware (fd : Int) (ioc : MegasasIocpacket) {n : Nat} (data : Buffer n) :
    Tool DriverReply :=
  Traced.interact (fun driver => (driver.head, driver.tail))
    (fun reply => .firmware ⟨fd, ioc, data.addr, data.bytes.toList, reply⟩)

@[simp] def close (fd : Int) : Tool Unit := Traced.record (.close fd)

@[simp] def sleep (seconds : Int) : Tool Unit := Traced.record (.sleep seconds)

@[simp] def printf (text : String) : Tool Unit := Traced.record (.stdout text)

@[simp] def fprintfStderr (text : String) : Tool Unit := Traced.record (.stderr text)

/-- `perror(text)`, with the text of `errno`. -/
@[simp] def perror (text error : String) : Tool Unit := Traced.record (.perror text error)

@[simp] def setLineBuffered : Tool Unit := Traced.record .setLineBuffered

end Tool

/-! ### Reading a record of events -/

namespace Event

@[simp] def command? : Event → Option Command
  | .firmware command => some command
  | _ => none

@[simp] def sleep? : Event → Option Int
  | .sleep seconds => some seconds
  | _ => none

@[simp] def stdout? : Event → Option String
  | .stdout text => some text
  | _ => none

end Event

/-- The passthrough commands of a run, in order. -/
def commands (events : List Event) : List Command := events.filterMap Event.command?

/-- The durations a run slept, in order. -/
def sleeps (events : List Event) : List Int := events.filterMap Event.sleep?

/-- What a run wrote to its standard output, in order. -/
def printed (events : List Event) : List String := events.filterMap Event.stdout?

@[simp] theorem commands_nil : commands [] = [] := rfl

@[simp] theorem commands_cons (event : Event) (events : List Event) :
    commands (event :: events) = event.command?.toList ++ commands events := by
  cases event <;> rfl

@[simp] theorem commands_append (first second : List Event) :
    commands (first ++ second) = commands first ++ commands second :=
  List.filterMap_append

@[simp] theorem sleeps_nil : sleeps [] = [] := rfl

@[simp] theorem sleeps_cons (event : Event) (events : List Event) :
    sleeps (event :: events) = event.sleep?.toList ++ sleeps events := by
  cases event <;> rfl

@[simp] theorem sleeps_append (first second : List Event) :
    sleeps (first ++ second) = sleeps first ++ sleeps second :=
  List.filterMap_append

@[simp] theorem printed_nil : printed [] = [] := rfl

@[simp] theorem printed_cons (event : Event) (events : List Event) :
    printed (event :: events) = event.stdout?.toList ++ printed events := by
  cases event <;> rfl

@[simp] theorem printed_append (first second : List Event) :
    printed (first ++ second) = printed first ++ printed second :=
  List.filterMap_append

/-! ### Parts without commands -/

/-- A part of a tool that sends no command and does not wait. -/
structure Quiet {α : Type} (part : Tool α) : Prop where
  world : ∀ driver, part.world driver = driver
  commands : ∀ driver, commands (part.events driver) = []
  sleeps : ∀ driver, sleeps (part.events driver) = []

namespace Quiet

variable {α β : Type}

/-- A part that does nothing is quiet. -/
theorem pure (a : α) : Quiet (Pure.pure a : Tool α) := ⟨fun _ => rfl, fun _ => rfl, fun _ => rfl⟩

/-- One quiet part after the other. -/
theorem bind {x : Tool α} {f : α → Tool β} (first : Quiet x) (second : ∀ a, Quiet (f a)) :
    Quiet (x >>= f) where
  world driver := by rw [Traced.world_bind, (second _).world, first.world]
  commands driver := by
    rw [Traced.events_bind, commands_append, first.commands, (second _).commands]
    rfl
  sleeps driver := by
    rw [Traced.events_bind, sleeps_append, first.sleeps, (second _).sleeps]
    rfl

/-- Mapping the value leaves a part quiet. -/
theorem map {x : Tool α} (f : α → β) (quiet : Quiet x) : Quiet (f <$> x) where
  world driver := quiet.world driver
  commands driver := by rw [Traced.events_map, quiet.commands]
  sleeps driver := by rw [Traced.events_map, quiet.sleeps]

/-- A loop over a list is quiet if its body is. -/
theorem forM {body : β → Tool Unit} (each : ∀ b, Quiet (body b)) (items : List β) :
    Quiet (items.forM body) := by
  induction items with
  | nil => exact .pure ()
  | cons item items ih => exact .bind (each item) fun _ => ih

/-- Both branches are quiet. -/
theorem ite {condition : Prop} [Decidable condition] {x y : Tool α} (whenTrue : Quiet x)
    (whenFalse : Quiet y) : Quiet (if condition then x else y) := by
  split
  · exact whenTrue
  · exact whenFalse

/-- Recording an event that is neither a command nor a wait. -/
theorem record {event : Event} (noCommand : event.command? = none) (noSleep : event.sleep? = none) :
    Quiet (Traced.record event) where
  world _ := rfl
  commands driver := by
    rw [Traced.events_record, commands_cons, noCommand]
    rfl
  sleeps driver := by
    rw [Traced.events_record, sleeps_cons, noSleep]
    rfl

/-- Opening a file is quiet. -/
theorem openFile (host : Host) (path : String) (nonblock : Bool) :
    Quiet (Tool.openFile host path nonblock) := ⟨fun _ => rfl, fun _ => rfl, fun _ => rfl⟩

/-- Asking for the bus number is quiet. -/
theorem getBusNumber (host : Host) (fd : Int) : Quiet (Tool.getBusNumber host fd) :=
  ⟨fun _ => rfl, fun _ => rfl, fun _ => rfl⟩

end Quiet

end Megaraid
