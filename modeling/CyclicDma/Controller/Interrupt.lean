import CyclicDma.Controller.Debug

/-! # Handling interrupts

`onInterrupt` runs when the controller raises an interrupt line. It acknowledges
the enabled events, counts one pending period for each channel that signalled,
and kills the channels that have faulted. The periods are delivered later.
-/

namespace CyclicDma.Controller

def acknowledge (raised : UInt32) (controller : Controller) : Controller :=
  let event : Event := .acknowledge raised
  { controller with registers := controller.registers.write .interruptClear raised }.record event

/-- Take note that a channel has faulted, and kill it once. -/
def onFault (channel : Nat) (controller : Controller) : Controller :=
  let noted := controller.updateNotifications channel ({ · with faulted := true })
    |>.log (.channelFault channel ⟨controller.read (.faultType channel)⟩)
  if (noted.notificationsOf channel).aborted then noted
  else
    let tried := noted.abort channel
    if (tried.notificationsOf channel).aborted then tried
    else tried.log (.killDeferred channel)

/-- Handle what a channel has to say: its event is among the raised ones, or it
is among the faulting channels, or both. -/
def serveChannel (raised faults : UInt32) (controller : Controller) (channel : Nat) :
    Controller :=
  let counted :=
    if hasChannel raised channel then
      controller.updateNotifications channel Notifications.addPending
    else controller
  if hasChannel faults channel then counted.onFault channel else counted

/-- Handle the interrupts of a controller. Tells whether there was any. -/
def onInterrupt (controller : Controller) : Bool × Controller :=
  let raised := controller.read .interruptEnable &&& controller.read .eventStatus
  let acknowledged := if raised = 0 then controller else controller.acknowledge raised
  let faults := acknowledged.read .channelFaultStatus
  let managerFaulted := acknowledged.read .managerFaultStatus &&& 1 != 0
  let reported :=
    if managerFaulted then
      acknowledged.log (.managerFault ⟨acknowledged.read .managerFaultType⟩)
    else acknowledged
  (raised != 0 || faults != 0 || managerFaulted,
    (List.range reported.managed).foldl (serveChannel raised faults) reported)

end CyclicDma.Controller
