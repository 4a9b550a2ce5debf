import Megaraid.Common.Arguments
import Megaraid.Device.Host

/-!
# From the arguments to the controller

Every tool takes a block device and a target id, derives the host number from
the block device, and opens the megasas ioctl node. The usage texts and the
texts handed to `perror` differ between the tools.
-/

namespace Megaraid

/-- The argument count and the target id. -/
def requireTarget (usage : String → Tool Unit) (long : LongWidth) (argv : List String) :
    Tool (Option Int) := do
  if argv.length < 3 then
    usage (argv.getD 0 "")
    return none
  else
    let target := parseTarget long (argv.getD 2 "")
    if target < 0 then
      Tool.fprintfStderr ("Invalid target id '" ++ argv.getD 2 "" ++ "' - expected 0-255\n")
      return none
    else
      return some target

/-- From `open(argv[1], …)` to `open("/dev/megaraid_sas_ioctl_node", O_RDWR)`:
the descriptor of the node and the host number. -/
def openController (host : Host) (device openDevError openMegaError : String) :
    Tool (Option (Int × Int)) := do
  let fdDev ← Tool.openFile host device true
  if fdDev < 0 then
    Tool.perror openDevError (host.openError device true)
    return none
  else
    let bus ← Tool.getBusNumber host fdDev
    if bus.result < 0 then
      Tool.perror "SCSI_IOCTL_GET_BUS_NUMBER" bus.error
      Tool.close fdDev
      return none
    else
      Tool.close fdDev
      let fdMega ← Tool.openFile host "/dev/megaraid_sas_ioctl_node" false
      if fdMega < 0 then
        Tool.perror openMegaError (host.openError "/dev/megaraid_sas_ioctl_node" false)
        return none
      else
        return some (fdMega, bus.busNo)

/-- The reply to the bus number ioctl on the device. -/
def Host.busReply (host : Host) (device : String) : BusReply :=
  host.busNumber (host.openFile device true)

/-- The descriptor of the ioctl node. -/
def Host.node (host : Host) : Int := host.openFile "/dev/megaraid_sas_ioctl_node" false

/-- Both `open` calls and the bus number ioctl succeed. -/
def Host.Reaches (host : Host) (device : String) : Prop :=
  0 ≤ host.openFile device true ∧ 0 ≤ (host.busReply device).result ∧ 0 ≤ host.node

instance (host : Host) (device : String) : Decidable (host.Reaches device) :=
  inferInstanceAs (Decidable (_ ∧ _ ∧ _))

/-- The arguments name a target. -/
def NamesTarget (long : LongWidth) (argv : List String) : Prop :=
  3 ≤ argv.length ∧ 0 ≤ parseTarget long (argv.getD 2 "")

instance (long : LongWidth) (argv : List String) : Decidable (NamesTarget long argv) :=
  inferInstanceAs (Decidable (_ ∧ _))

/-- The target id of the arguments. -/
def targetOf (long : LongWidth) (argv : List String) : Int := parseTarget long (argv.getD 2 "")

/-- The host number the ioctl returns for the device of the arguments. -/
def busOf (host : Host) (argv : List String) : Int := (host.busReply (argv.getD 1 "")).busNo

variable (host : Host) (device openDevError openMegaError : String) (driver : Stream' DriverReply)

/-- Opening the controller gives the node and the bus number if both were to be had. -/
@[simp] theorem openController_value :
    (openController host device openDevError openMegaError).value driver =
      if host.Reaches device then some (host.node, (host.busReply device).busNo) else none := by
  unfold openController Host.Reaches Host.busReply Host.node
  by_cases noDevice : host.openFile device true < 0
  · simp [noDevice, Int.not_le.mpr noDevice]
  by_cases noBus : (host.busNumber (host.openFile device true)).result < 0
  · simp [noDevice, noBus, Int.not_le.mpr noBus]
  by_cases noNode : host.openFile "/dev/megaraid_sas_ioctl_node" false < 0
  · simp [noDevice, noBus, noNode, Int.not_le.mpr noNode]
  · simp [noDevice, noBus, noNode, Int.not_lt.mp noDevice, Int.not_lt.mp noBus,
      Int.not_lt.mp noNode]

theorem quiet_openController : Quiet (openController host device openDevError openMegaError) := by
  refine .bind (.openFile ..) fun fdDev => .ite ?_ ?_
  · exact .bind (.record rfl rfl) fun _ => .pure _
  · refine .bind (.getBusNumber ..) fun bus => .ite ?_ ?_
    · exact .bind (.record rfl rfl) fun _ => .bind (.record rfl rfl) fun _ => .pure _
    · refine .bind (.record rfl rfl) fun _ => .bind (.openFile ..) fun fdMega => .ite ?_ (.pure _)
      exact .bind (.record rfl rfl) fun _ => .pure _

variable {usage : String → Tool Unit} (long : LongWidth) (argv : List String)

/-- The target is handed on if the arguments name one. -/
theorem requireTarget_value :
    (requireTarget usage long argv).value driver =
      if NamesTarget long argv then some (targetOf long argv) else none := by
  unfold requireTarget
  by_cases short : argv.length < 3
  · have unnamed : ¬NamesTarget long argv := fun named => absurd short (not_lt.mpr named.1)
    rw [if_pos short, if_neg unnamed]
    rfl
  rw [if_neg short]
  by_cases refused : parseTarget long (argv.getD 2 "") < 0
  · have unnamed : ¬NamesTarget long argv := fun named => absurd refused (not_lt.mpr named.2)
    rw [if_pos refused, if_neg unnamed]
    rfl
  · have named : NamesTarget long argv := ⟨not_lt.mp short, not_lt.mp refused⟩
    rw [if_neg refused, if_pos named]
    rfl

theorem quiet_requireTarget (silent : ∀ name, Quiet (usage name)) :
    Quiet (requireTarget usage long argv) := by
  refine .ite (.bind (silent _) fun _ => .pure _) (.ite ?_ (.pure _))
  exact .bind (.record rfl rfl) fun _ => .pure _

/-! ### Up to the drive -/

/-- A program that stops before its first command unless it is ready, and else
runs the part that talks to the drive. -/
structure Starts {α : Type} (program : Tool α) (ready : Prop) (drive : Tool α) (failure : α) :
    Prop where
  stopped : ¬ready → ∀ driver,
    commands (program.events driver) = [] ∧ program.value driver = failure
  started : ready → ∀ driver, ∃ first, commands first = [] ∧
    program.events driver = first ++ drive.events driver ∧
    program.value driver = drive.value driver

namespace Starts

variable {α β : Type} {ready : Prop} {program drive : Tool α} {failure : α}

/-- A program that begins with its drive part starts it. -/
theorem refl (drive : Tool α) (failure : α) : Starts drive True drive failure where
  stopped unready := absurd trivial unready
  started _ _ := ⟨[], rfl, rfl, rfl⟩

/-- A quiet part in front. -/
theorem bind {x : Tool β} {f : β → Tool α} (quiet : Quiet x)
    (next : ∀ driver, Starts (f (x.value driver)) ready drive failure) :
    Starts (x >>= f) ready drive failure where
  stopped unready driver := by
    obtain ⟨sent, value⟩ := (next driver).stopped unready driver
    rw [Traced.events_bind, commands_append, quiet.commands, Traced.value_bind, quiet.world]
    exact ⟨sent, value⟩
  started reached driver := by
    obtain ⟨first, sent, events, value⟩ := (next driver).started reached driver
    refine ⟨x.events driver ++ first, ?_, ?_, ?_⟩
    · rw [commands_append, quiet.commands, sent]
      rfl
    · rw [Traced.events_bind, quiet.world, events, List.append_assoc]
    · rw [Traced.value_bind, quiet.world, value]

/-- A quiet part in front that stops the program unless its condition holds. -/
theorem require {condition : Prop} [Decidable condition] {x : Tool (Option β)} {b : β}
    {f : Option β → Tool α} (quiet : Quiet x)
    (value : ∀ driver, x.value driver = if condition then some b else none)
    (stops : f none = pure failure) (next : Starts (f (some b)) ready drive failure) :
    Starts (x >>= f) (condition ∧ ready) drive failure := by
  by_cases holds : condition
  · rw [and_iff_right holds]
    refine bind quiet fun driver => ?_
    rw [value, if_pos holds]
    exact next
  · refine ⟨fun _ driver => ?_, fun reached => absurd reached.1 holds⟩
    rw [Traced.events_bind, commands_append, quiet.commands, Traced.value_bind, value,
      if_neg holds, stops]
    exact ⟨rfl, rfl⟩

/-- The way to the controller is the last condition. -/
theorem controller {host : Host} {device openDevError openMegaError : String}
    {f : Option (Int × Int) → Tool α} (stops : f none = pure failure) :
    Starts (openController host device openDevError openMegaError >>= f) (host.Reaches device)
      (f (some (host.node, (host.busReply device).busNo))) failure := by
  rw [← and_true (host.Reaches device)]
  exact require (quiet_openController ..) (fun _ => openController_value ..) stops (refl _ _)

end Starts

end Megaraid
