import Sponge.TcpOverIp
import Sponge.Transition

/-! What the adapter lets through: it takes a datagram as a whole or leaves its own state alone, and once it
has taken a connection request it never changes again. -/

namespace Sponge.TcpOverIpFilter

open TCPOverIPv4Adapter Transition

/-- The segment in the datagram belongs to the connection of the adapter. -/
structure Belongs (a : TCPOverIPv4Adapter) (header : IPv4Header) (buffer : Buffer) (segment : TCPSegment) :
    Prop where
  connected : a.listening = false
  source : a.config.source = ⟨some header.dst, segment.header.dport⟩
  destination : a.config.destination = ⟨some header.src, segment.header.sport⟩
  proto : header.proto = protoTCP
  verified : (InternetChecksum.add ⟨header.pseudoCksum, false⟩ buffer).value = 0
  parsed : TCPSegment.parse {} buffer header.pseudoCksum = (.noError, segment)

inductive Unwrapped (a : TCPOverIPv4Adapter) (header : IPv4Header) (buffer : Buffer) :
    Except String (Option TCPSegment × TCPOverIPv4Adapter) → Prop
  | thrown {message : String} : Unwrapped a header buffer (.error message)
  | dropped : Unwrapped a header buffer (.ok (none, a))
  | taken {segment : TCPSegment} {b : TCPOverIPv4Adapter} (belongs : Belongs b header buffer segment)
      (request : a.listening = true → segment.header.syn = true ∧ segment.header.rst = false)
      (same : a.listening = false → b = a) : Unwrapped a header buffer (.ok (some segment, b))

/-- The adapter after a datagram, whether the call returned or threw. -/
def receive (inetNtoa : UInt32 → String) (getaddrinfo : String → Option UInt32) (a : TCPOverIPv4Adapter)
    (ipDgram : InternetDatagram) : TCPOverIPv4Adapter :=
  match a.unwrapTcpInIp inetNtoa getaddrinfo ipDgram with
  | .ok (_, b) => b
  | .error _ => a

def Single (_ : TCPOverIPv4Adapter) (ipDgram : InternetDatagram) : Prop :=
  ∃ buffer, ipDgram.payload = .ofBuffer buffer

theorem parse_verified {fresh segment : TCPSegment} {buffer : Buffer} {seed : UInt32}
    (parsed : fresh.parse buffer seed = (.noError, segment)) :
    (InternetChecksum.add ⟨seed, false⟩ buffer).value = 0 := by
  by_contra wrong
  simp only [TCPSegment.parse, ne_eq, wrong, not_false_eq_true, if_true] at parsed
  cases parsed

theorem ipv4Numeric_ok {address : Address} {ip : UInt32} (numeric : address.ipv4Numeric = .ok ip) :
    address.ipv4 = some ip := by
  unfold Address.ipv4Numeric at numeric
  split at numeric
  · rename_i known
    rw [known, Except.ok.inj numeric]
  · cases numeric

theorem addressed_quiet {a : TCPOverIPv4Adapter} {header : IPv4Header} (quiet : a.listening = false)
    (passes : a.addressed header = .ok true) :
    a.config.source.ipv4 = some header.dst ∧ a.config.destination.ipv4 = some header.src := by
  simp only [addressed, quiet, Bool.false_eq_true, if_false] at passes
  obtain ⟨own, ownNumeric, rest⟩ := of_bind_ok passes
  split at rest
  case isTrue => cases rest
  case isFalse here =>
    obtain ⟨peer, peerNumeric, rest⟩ := of_bind_ok rest
    split at rest
    case isTrue => cases rest
    case isFalse there =>
      rw [not_not.mp here, not_not.mp there]
      exact ⟨ipv4Numeric_ok ownNumeric, ipv4Numeric_ok peerNumeric⟩

section Library

variable {inetNtoa : UInt32 → String} {getaddrinfo : String → Option UInt32}

theorem adopt_numeric (numeric : ∀ ip, getaddrinfo (inetNtoa ip) = some ip) (a : TCPOverIPv4Adapter)
    (header : IPv4Header) (segment : TCPSegment) :
    a.adopt inetNtoa getaddrinfo header segment =
      .ok (if a.listening then
        if segment.header.syn && !segment.header.rst then
          some ⟨⟨⟨some header.dst, a.config.source.port⟩, ⟨some header.src, segment.header.sport⟩⟩, false⟩
        else none
      else some a) := by
  unfold adopt
  split
  · split
    · simp only [Address.ofIp, numeric]
      rfl
    · rfl
  · rfl

/-- What unwrapping can do, said once. -/
theorem unwrap_unwrapped (numeric : ∀ ip, getaddrinfo (inetNtoa ip) = some ip) (a : TCPOverIPv4Adapter)
    (header : IPv4Header) (buffer : Buffer) :
    Unwrapped a header buffer (a.unwrapTcpInIp inetNtoa getaddrinfo ⟨header, .ofBuffer buffer⟩) := by
  unfold unwrapTcpInIp
  cases passes : a.addressed header with
  | error message => exact .thrown
  | ok passing =>
      cases passing with
      | false => exact .dropped
      | true =>
          simp only [ok_bind, BufferList.ofBuffer_toBuffer, adopt_numeric numeric]
          rcases parsed : TCPSegment.parse {} buffer header.pseudoCksum with ⟨result, segment⟩
          dsimp only
          rw [if_neg (by decide)]
          by_cases proto : header.proto = protoTCP
          case neg => rw [if_pos proto]; exact .dropped
          rw [if_neg (not_not.mpr proto)]
          by_cases fine : result = .noError
          case neg => rw [if_pos fine]; exact .dropped
          rw [if_neg (not_not.mpr fine)]
          subst fine
          by_cases port : segment.header.dport = a.config.source.port
          case neg => rw [if_pos port]; exact .dropped
          rw [if_neg (not_not.mpr port)]
          have verified := parse_verified parsed
          cases listens : a.listening with
          | true =>
              rw [if_pos rfl]
              by_cases request : (segment.header.syn && !segment.header.rst) = true
              case neg => rw [if_neg request]; exact .dropped
              -- the port just taken is the segment's own, so that the last filter lets it pass
              simp only [if_pos request, ne_eq, not_true_eq_false, if_false]
              rw [Bool.and_eq_true, Bool.not_eq_true'] at request
              refine .taken ⟨rfl, by rw [port], rfl, proto, verified, parsed⟩ (fun _ => request) ?_
              intro quiet
              rw [listens] at quiet
              cases quiet
          | false =>
              rw [if_neg Bool.false_ne_true]
              by_cases peer : segment.header.sport = a.config.destination.port
              case neg => simp only [if_pos peer]; exact .dropped
              obtain ⟨own, other⟩ := addressed_quiet listens passes
              simp only [if_neg (not_not.mpr peer)]
              refine .taken ⟨listens, ?_, ?_, proto, verified, parsed⟩ ?_ fun _ => rfl
              · rw [port, ← own]
              · rw [peer, ← other]
              · intro listening
                rw [listens] at listening
                cases listening

theorem receive_quiet (numeric : ∀ ip, getaddrinfo (inetNtoa ip) = some ip) {a : TCPOverIPv4Adapter}
    {ipDgram : InternetDatagram} (quiet : a.listening = false) (single : Single a ipDgram) :
    receive inetNtoa getaddrinfo a ipDgram = a := by
  obtain ⟨header, payload⟩ := ipDgram
  obtain ⟨buffer, rfl⟩ := single
  have unwrapped := unwrap_unwrapped numeric a header buffer
  unfold receive
  generalize a.unwrapTcpInIp inetNtoa getaddrinfo ⟨header, .ofBuffer buffer⟩ = outcome at unwrapped ⊢
  cases unwrapped with
  | thrown => rfl
  | dropped => rfl
  | taken _ _ same => exact same quiet

theorem reachable_quiet (numeric : ∀ ip, getaddrinfo (inetNtoa ip) = some ip) {a b : TCPOverIPv4Adapter}
    (quiet : a.listening = false) (reached : Reachable (receive inetNtoa getaddrinfo) Single a b) : b = a := by
  induction reached with
  | start => rfl
  | next ipDgram _ single ih =>
      subst ih
      exact receive_quiet numeric quiet single

/-- An adapter that returns nothing has not changed. One that returns a segment is connected to the sender
of the segment then, has verified the checksum, and was asked for the connection if it listened; from then
on it returns segments of that sender only. -/
theorem filtered_atomically (numeric : ∀ ip, getaddrinfo (inetNtoa ip) = some ip) (a : TCPOverIPv4Adapter)
    (header : IPv4Header) (buffer : Buffer) :
    (∀ b, a.unwrapTcpInIp inetNtoa getaddrinfo ⟨header, .ofBuffer buffer⟩ = .ok (none, b) → b = a) ∧
      ∀ segment b, a.unwrapTcpInIp inetNtoa getaddrinfo ⟨header, .ofBuffer buffer⟩ = .ok (some segment, b) →
        Belongs b header buffer segment ∧
        (a.listening = true → segment.header.syn = true ∧ segment.header.rst = false) ∧
        ∀ c, Reachable (receive inetNtoa getaddrinfo) Single b c → ∀ later bytes next d,
          c.unwrapTcpInIp inetNtoa getaddrinfo ⟨later, .ofBuffer bytes⟩ = .ok (some next, d) →
            later.src = header.src ∧ later.dst = header.dst ∧
              next.header.sport = segment.header.sport ∧ next.header.dport = segment.header.dport := by
  have unwrapped := unwrap_unwrapped numeric a header buffer
  refine ⟨?_, ?_⟩
  · intro b returned
    rw [returned] at unwrapped
    cases unwrapped
    rfl
  · intro segment b returned
    rw [returned] at unwrapped
    cases unwrapped with
    | taken belongs request _ =>
        refine ⟨belongs, request, ?_⟩
        intro c reached later bytes next d again
        rw [reachable_quiet numeric belongs.connected reached] at again
        have unwrapped := unwrap_unwrapped numeric b later bytes
        rw [again] at unwrapped
        cases unwrapped with
        | taken other _ same =>
            rw [same belongs.connected] at other
            have source := belongs.source.symm.trans other.source
            have destination := belongs.destination.symm.trans other.destination
            simp only [Address.mk.injEq, Option.some.injEq] at source destination
            exact ⟨destination.1.symm, source.1.symm, destination.2.symm, source.2.symm⟩

end Library

def opening : IPv4Header := carrier 0x0a000001 0x0a000002 request

def openingSegment : TCPSegment := ⟨(client.setPorts request).sealed opening.pseudoCksum, request.payload⟩

def openingBytes : Buffer := openingSegment.header.padded ++ openingSegment.payload

theorem opening_filtered :
    let connected : TCPOverIPv4Adapter := ⟨⟨client.config.destination, client.config.source⟩, false⟩
    server.listening = true ∧
      server.unwrapTcpInIp printed scanned ⟨opening, .ofBuffer openingBytes⟩ =
        .ok (some openingSegment, connected) ∧
      Belongs connected opening openingBytes openingSegment ∧ openingSegment.header.syn = true ∧
      ∀ later bytes next d,
        connected.unwrapTcpInIp printed scanned ⟨later, .ofBuffer bytes⟩ = .ok (some next, d) →
          later.src = 0x0a000001 ∧ next.header.sport = 40000 := by
  intro connected
  have parsed : TCPSegment.parse {} openingBytes opening.pseudoCksum = (.noError, openingSegment) := by
    decide +kernel
  have expects : server.Expects client request := .inr ⟨rfl, rfl, rfl, rfl⟩
  have taken : server.unwrapTcpInIp printed scanned ⟨opening, .ofBuffer openingBytes⟩ =
      .ok (some openingSegment, connected) :=
    unwrap_expected scanned_printed rfl rfl expects rfl rfl rfl parsed rfl rfl rfl rfl
  obtain ⟨belongs, asked, onward⟩ :=
    (filtered_atomically scanned_printed server opening openingBytes).2 _ _ taken
  refine ⟨rfl, taken, belongs, (asked rfl).1, ?_⟩
  intro later bytes next d again
  obtain ⟨src, _, sport, _⟩ := onward connected .start later bytes next d again
  exact ⟨src, sport⟩

end Sponge.TcpOverIpFilter
