import Sponge.Ethernet
import Sponge.TcpOverIp

/-! The network interface (`network_interface.hh`, `network_interface.cc`).

A call returns what it returns or throws, and the interface as the call leaves it: what was done before an
exception stays done. -/

namespace Sponge

structure NetworkInterface where
  ethernetAddress : EthernetAddress
  ipAddress : Address
  framesOut : List EthernetFrame := []
  /-- The Ethernet address and the remaining time to live for each IP address. -/
  arpTable : UInt32 → Option (EthernetAddress × Nat) := fun _ => none
  /-- The IP addresses asked for, each with the time left until it is asked for again. -/
  arpPendingIpAddresses : List (UInt32 × Nat) := []
  arpPendingDatagrams : List (UInt32 × InternetDatagram) := []

namespace NetworkInterface

def defaultArpTtl : Nat := 30000

def defaultArpTimeout : Nat := 5000

def isIpKnown (i : NetworkInterface) (ip : UInt32) : Bool := (i.arpTable ip).isSome

def generateARPMessage (i : NetworkInterface) (targetIpAddress : UInt32) (opcode : UInt16) :
    Except String ARPMessage := do
  return {
    senderEthernetAddress := i.ethernetAddress
    senderIpAddress := ← i.ipAddress.ipv4Numeric
    targetEthernetAddress := match i.arpTable targetIpAddress with
      | some (mac, _) => mac
      | none => .zero
    targetIpAddress := targetIpAddress
    opcode := opcode }

def buildFrameHeader (i : NetworkInterface) (dstIpAddress : UInt32) (type : UInt16) : EthernetHeader where
  type := type
  src := i.ethernetAddress
  dst := match i.arpTable dstIpAddress with
    | some (mac, _) => mac
    | none => .broadcast

/-- `_generate_frame` for a datagram. -/
def generateFrame (i : NetworkInterface) (dstIpAddress : UInt32) (datagram : InternetDatagram) :
    Except String EthernetFrame := do
  return ⟨i.buildFrameHeader dstIpAddress EthernetHeader.typeIPv4, ← datagram.serialize⟩

/-- `_generate_frame` for the ARP message that `_generate_ARPMessage` makes. -/
def generateARPFrame (i : NetworkInterface) (dstIpAddress : UInt32) (opcode : UInt16) :
    Except String EthernetFrame := do
  let message ← i.generateARPMessage dstIpAddress opcode
  return ⟨i.buildFrameHeader dstIpAddress EthernetHeader.typeARP, .ofBuffer (← message.serialize)⟩

def push (i : NetworkInterface) (frame : Except String EthernetFrame) :
    Except String Unit × NetworkInterface :=
  match frame with
  | .ok frame => (.ok (), { i with framesOut := i.framesOut ++ [frame] })
  | .error message => (.error message, i)

def sendDatagram (i : NetworkInterface) (dgram : InternetDatagram) (nextHop : Address) :
    Except String Unit × NetworkInterface :=
  match nextHop.ipv4Numeric with
  | .error message => (.error message, i)
  | .ok nextHopIp =>
      if i.isIpKnown nextHopIp then i.push (i.generateFrame nextHopIp dgram)
      else
        let i := { i with arpPendingDatagrams := i.arpPendingDatagrams ++ [(nextHopIp, dgram)] }
        let flag := i.arpPendingIpAddresses.any (fun e => e.1 == nextHopIp)
        if flag then (.ok (), i)
        else
          let i := { i with arpPendingIpAddresses :=
            i.arpPendingIpAddresses ++ [(nextHopIp, defaultArpTimeout)] }
          i.push (i.generateARPFrame nextHopIp ARPMessage.opcodeRequest)

/-- The loop that sends the datagrams waiting for `ip`: `kept` are the entries it has passed over. -/
def flush (ip : UInt32) (i : NetworkInterface) (kept : List (UInt32 × InternetDatagram)) :
    List (UInt32 × InternetDatagram) → Except String Unit × NetworkInterface
  | [] => (.ok (), { i with arpPendingDatagrams := kept })
  | (hop, dgram) :: rest =>
      if hop = ip then
        match i.push (i.generateFrame hop dgram) with
        | (.ok (), i) => flush ip i kept rest
        | (.error message, i) =>
            (.error message, { i with arpPendingDatagrams := kept ++ (hop, dgram) :: rest })
      else flush ip i (kept ++ [(hop, dgram)]) rest

/-- The part of `recv_frame` that follows an ARP message for this interface. -/
def learn (i : NetworkInterface) (message : ARPMessage) : Except String Unit × NetworkInterface :=
  let mac := message.senderEthernetAddress
  let ip := message.senderIpAddress
  let i := { i with arpTable := Function.update i.arpTable ip (some (mac, defaultArpTtl)) }
  let (result, i) :=
    if message.opcode = ARPMessage.opcodeRequest then i.push (i.generateARPFrame ip ARPMessage.opcodeReply)
    else (.ok (), i)
  match result with
  | .error message => (.error message, i)
  | .ok () =>
      let i := { i with arpPendingIpAddresses := i.arpPendingIpAddresses.filter (fun e => e.1 != ip) }
      i.flush ip [] i.arpPendingDatagrams

def recvFrame (i : NetworkInterface) (frame : EthernetFrame) :
    Except String (Option InternetDatagram) × NetworkInterface :=
  if frame.header.dst ≠ i.ethernetAddress ∧ frame.header.dst ≠ .broadcast then (.ok none, i)
  else
    match frame.payload.toBuffer with
    | .error message => (.error message, i)
    | .ok buffer =>
        if frame.header.type = EthernetHeader.typeIPv4 then
          match IPv4Datagram.parse {} buffer with
          | (.noError, datagram) => (.ok (some datagram), i)
          | _ => (.ok none, i)
        else
          -- a frame of any other type is taken for ARP
          match ARPMessage.parse {} buffer with
          | (.noError, message) =>
              match i.ipAddress.ipv4Numeric with
              | .error message => (.error message, i)
              | .ok own =>
                  if message.targetIpAddress ≠ own then (.ok none, i)
                  else
                    let (result, i) := i.learn message
                    (result.map fun _ => none, i)
          | _ => (.ok none, i)

/-- The loop that repeats the ARP requests that were not answered in time: `done` are the entries it has
passed. -/
def retry (msSinceLastTick : Nat) (i : NetworkInterface) (done : List (UInt32 × Nat)) :
    List (UInt32 × Nat) → Except String Unit × NetworkInterface
  | [] => (.ok (), { i with arpPendingIpAddresses := done })
  | (ip, ttl) :: rest =>
      if ttl ≤ msSinceLastTick then
        match i.push (i.generateARPFrame ip ARPMessage.opcodeRequest) with
        | (.ok (), i) => retry msSinceLastTick i (done ++ [(ip, defaultArpTimeout)]) rest
        | (.error message, i) => (.error message, { i with arpPendingIpAddresses := done ++ (ip, ttl) :: rest })
      else retry msSinceLastTick i (done ++ [(ip, ttl - msSinceLastTick)]) rest

/-- The entries of the table expire one by one, so that their order does not matter. -/
def expire (msSinceLastTick : Nat) (entry : EthernetAddress × Nat) : Option (EthernetAddress × Nat) :=
  if entry.2 ≤ msSinceLastTick then none else some (entry.1, entry.2 - msSinceLastTick)

def tick (i : NetworkInterface) (msSinceLastTick : Nat) : Except String Unit × NetworkInterface :=
  match i.retry msSinceLastTick [] i.arpPendingIpAddresses with
  | (.error message, i) => (.error message, i)
  | (.ok (), i) => (.ok (), { i with arpTable := fun ip => (i.arpTable ip).bind (expire msSinceLastTick) })

inductive Operation
  | sendDatagram (dgram : InternetDatagram) (nextHop : Address)
  | recvFrame (frame : EthernetFrame)
  | tick (msSinceLastTick : Nat)

/-- The interface after an operation, whether the call returned or threw. -/
def operate (i : NetworkInterface) : Operation → NetworkInterface
  | .sendDatagram dgram nextHop => (i.sendDatagram dgram nextHop).2
  | .recvFrame frame => (i.recvFrame frame).2
  | .tick msSinceLastTick => (i.tick msSinceLastTick).2

/-! ### Frames -/

def dataFrame (i : NetworkInterface) (mac : EthernetAddress) (dgram : InternetDatagram) : EthernetFrame :=
  ⟨⟨mac, i.ethernetAddress, EthernetHeader.typeIPv4⟩,
    (BufferList.ofBuffer dgram.sealed.padded).append dgram.payload⟩

theorem generateFrame_known {i : NetworkInterface} {ip : UInt32} {mac : EthernetAddress} {ttl : Nat}
    {dgram : InternetDatagram} (known : i.arpTable ip = some (mac, ttl)) (serializable : dgram.Serializable) :
    i.generateFrame ip dgram = .ok (i.dataFrame mac dgram) := by
  simp only [generateFrame, IPv4Datagram.serialize_serializable serializable, ok_bind, buildFrameHeader, known]
  rfl

theorem generateARPMessage_own {i : NetworkInterface} {own : UInt32} (address : i.ipAddress.ipv4 = some own)
    (ip : UInt32) (opcode : UInt16) :
    ∃ message, i.generateARPMessage ip opcode = .ok message ∧ message.opcode = opcode ∧
      (opcode = ARPMessage.opcodeRequest ∨ opcode = ARPMessage.opcodeReply → message.supported) := by
  simp only [generateARPMessage, Address.ipv4Numeric, address, ok_bind]
  refine ⟨_, rfl, rfl, ?_⟩
  rintro (rfl | rfl) <;> rfl

theorem generateARPFrame_own {i : NetworkInterface} {own : UInt32} (address : i.ipAddress.ipv4 = some own)
    (ip : UInt32) {opcode : UInt16}
    (valid : opcode = ARPMessage.opcodeRequest ∨ opcode = ARPMessage.opcodeReply) :
    ∃ frame, i.generateARPFrame ip opcode = .ok frame := by
  obtain ⟨message, made, _, supported⟩ := i.generateARPMessage_own address ip opcode
  simp only [generateARPFrame, made, ok_bind, ARPMessage.serialize, supported valid]
  exact ⟨_, rfl⟩

theorem generateARPFrame_type {i : NetworkInterface} {ip : UInt32} {opcode : UInt16} {frame : EthernetFrame}
    (made : i.generateARPFrame ip opcode = .ok frame) : frame.header.type = EthernetHeader.typeARP := by
  obtain ⟨message, _, written⟩ := of_bind_ok made
  obtain ⟨bytes, _, packed⟩ := of_bind_ok written
  cases packed
  rfl

end NetworkInterface
end Sponge
