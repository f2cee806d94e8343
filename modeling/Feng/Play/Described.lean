import Feng.Play.Replies
import Feng.Play.Selection

/-
  What the Transport header of a reply to SETUP describes: a
  transport over UDP with the ports it was offered with, or
  one over TCP, in both cases without `multicast`.

  The mode of an offer is not looked at, nor whether there are
  ports in it.

  Key definitions include:
    * `Play.Describes`
    * `Play.Answerable`

  Key theorems include:
    * `Play.describes_udp_iff`
    * `Play.rtspSetupCalls_answered`
    * `Play.setup_describes_iff`
    * `Play.multicast_not_described`
-/

------------------------------------------------------------
-- Numbers That Are Printed
------------------------------------------------------------

namespace Feng

/- A string constant can be read back. -/
theorem ascii_inj
    {first second : String}
    (hFirst : ∀ c ∈ first.toList, c.toNat < 128)
    (hSecond : ∀ c ∈ second.toList, c.toNat < 128)
    (hSame : ascii first = ascii second) :
    first = second := by
  have hBack {word : String}
      (hWord : ∀ c ∈ word.toList, c.toNat < 128) :
      (ascii word).map (fun c => Char.ofNat c.toNat) =
        word.toList := by
    unfold ascii
    rw [List.map_map]
    refine (List.map_congr_left ?_).trans (List.map_id _)
    intro c hMem
    have hBound := hWord c hMem
    have hValue : c.toNat.toUInt8.toNat = c.toNat := by
      change c.toNat % 256 = c.toNat
      omega
    simp only [Function.comp_apply, hValue, Char.ofNat_toNat,
      id_eq]
  have hLists := congrArg
    (List.map (fun c : UInt8 => Char.ofNat c.toNat)) hSame
  rw [hBack hFirst, hBack hSecond] at hLists
  exact String.toList_inj.mp hLists

namespace Play

theorem mem_toString
    {n : Nat}
    {c : Char}
    (hMem : c ∈ (toString n).toList) :
    48 ≤ c.toNat ∧ c.toNat ≤ 57 := by
  have hDigits : c ∈ Nat.toDigits 10 n := by
    rw [← Nat.toList_repr]
    exact hMem
  exact Char.isDigit_iff_toNat.mp
    (Nat.isDigit_of_mem_toDigits (by decide) (by decide)
      hDigits)

theorem mem_printInt
    {n : Nat}
    {c : UInt8}
    (hMem : c ∈ printInt n) :
    48 ≤ c.toNat ∧ c.toNat ≤ 57 := by
  rcases List.mem_map.mp hMem with ⟨d, hDigit, rfl⟩
  have hBounds := mem_toString hDigit
  change 48 ≤ d.toNat % 256 ∧ d.toNat % 256 ≤ 57
  omega

theorem printInt_ne_nil (n : Nat) : printInt n ≠ [] := by
  intro hNil
  have hDigits : Nat.toDigits 10 n = [] := by
    rw [← Nat.toList_repr]
    exact List.map_eq_nil_iff.mp hNil
  exact Nat.toDigits_ne_nil hDigits

theorem printInt_inj
    {m n : Nat}
    (hSame : printInt m = printInt n) :
    m = n := by
  have hStrings : toString m = toString n := by
    apply ascii_inj _ _ hSame
    · intro c hMem
      have hBounds := mem_toString hMem
      omega
    · intro c hMem
      have hBounds := mem_toString hMem
      omega
  have hDigits : Nat.toDigits 10 m = Nat.toDigits 10 n := by
    rw [← Nat.toList_repr, ← Nat.toList_repr]
    exact congrArg String.toList hStrings
  rw [← Nat.ofDigitChars_ten_toDigits (n := m), hDigits,
    Nat.ofDigitChars_ten_toDigits]

/- Ports with a dash between them, as channels are printed. -/
def printPorts (rtp rtcp : Option Nat) : List UInt8 :=
  printChannel rtp ++ ascii "-" ++ printChannel rtcp

/- Ports are read back from what is printed of channels. -/
theorem printPorts_eq_iff
    {first second : Option Nat}
    {rtp rtcp : Nat} :
    printPorts (some rtp) (some rtcp) =
        printPorts first second ↔
      first = some rtp ∧ second = some rtcp := by
  have hDash (n : Nat) : (45 : UInt8) ∉ printInt n := by
    intro hMem
    exact absurd (mem_printInt hMem).1 (by decide)
  have hPrinted (channel other : Option Nat) :
      printPorts channel other =
        printChannel channel ++ 45 :: printChannel other :=
    List.append_assoc _ _ _
  constructor
  · intro hSame
    rw [hPrinted, hPrinted] at hSame
    cases first with
    | none =>
        have hNil :
            printInt rtp ++ 45 :: printInt rtcp =
              [] ++ 45 :: (49 :: 45 :: printChannel second) :=
          hSame
        have hParts :=
          (List.append_cons_inj_of_notMem (hDash rtp)
            (hDash rtcp)).mp hNil
        exact absurd hParts.1 (printInt_ne_nil rtp)
    | some p =>
        rcases (List.append_cons_inj_of_notMem (hDash rtp)
          (hDash rtcp)).mp hSame with ⟨hFirst, _, hSecond⟩
        have hRtp := printInt_inj hFirst
        cases second with
        | none =>
            have hMinus : (45 : UInt8) ∈ printInt rtcp := by
              change printInt rtcp = ascii "-1" at hSecond
              rw [hSecond]
              decide
            exact absurd hMinus (hDash rtcp)
        | some q =>
            have hRtcp := printInt_inj hSecond
            subst hRtp
            subst hRtcp
            exact ⟨rfl, rfl⟩
  · rintro ⟨rfl, rfl⟩
    rfl

end Play

end Feng

------------------------------------------------------------
-- What A Reply Says
------------------------------------------------------------

namespace Feng

namespace Play

variable {env : Env} {localHost : List UInt8}
variable {parsed : ParsedTransport} {offer : OfferedTransport}
variable {rtp rtcp : Nat} {rtpPort rtcpPort : UInt16}

abbrev chSemicolon : UInt8 := 59

/- The protocol of a transport, and its parameters. -/
def transportFields (text : List UInt8) : List (List UInt8) :=
  text.splitOn chSemicolon

def protocolName : RTPProtocol → List UInt8
| .udp => ascii "RTP/AVP"
| .tcp => ascii "RTP/AVP/TCP"
| .sctp => ascii "RTP/AVP/SCTP"

def clientPort (rtp rtcp : Option Nat) : List UInt8 :=
  ascii "client_port=" ++ printPorts rtp rtcp

/-
  The text of a transport is that of an offer: it has the same
  protocol and the same mode, and over UDP the two ports that
  were offered.
-/
structure Describes
    (text : List UInt8)
    (offer : OfferedTransport) : Prop where
  protocol :
    (transportFields text).head? =
      some (protocolName offer.protocol)
  mode :
    ascii "multicast" ∈ transportFields text ↔
      offer.mode = .multicast
  ports : offer.protocol = .udp → ∃ rtp rtcp,
    offer.rtpChannel = some rtp ∧
      offer.rtcpChannel = some rtcp ∧
      clientPort (some rtp) (some rtcp) ∈ transportFields text

/- The transport over TCP, as it is reported. -/
def tcpTransportString
    (env : Env)
    (rtp rtcp : Nat) : List UInt8 :=
  ascii "RTP/AVP/TCP;interleaved=" ++ printInt rtp ++
    ascii "-" ++ printInt rtcp ++ ascii ";ssrc=" ++
    printHex env.ssrc

def udpFields
    (env : Env)
    (localHost : List UInt8)
    (parsed : ParsedTransport)
    (rtpPort rtcpPort : UInt16) : List (List UInt8) :=
  [ascii "RTP/AVP", ascii "unicast",
    ascii "source=" ++ localHost,
    clientPort parsed.rtpChannel parsed.rtcpChannel,
    ascii "server_port=" ++
      printPorts (some rtpPort.toNat) (some rtcpPort.toNat),
    ascii "ssrc=" ++ printHex env.ssrc]

def tcpFields
    (env : Env)
    (rtp rtcp : Nat) : List (List UInt8) :=
  [ascii "RTP/AVP/TCP",
    ascii "interleaved=" ++ printPorts (some rtp) (some rtcp),
    ascii "ssrc=" ++ printHex env.ssrc]

theorem semicolon_printInt (n : Nat) :
    chSemicolon ∉ printInt n := by
  intro hMem
  exact absurd (mem_printInt hMem).2 (by decide)

theorem semicolon_printChannel (channel : Option Nat) :
    chSemicolon ∉ printChannel channel := by
  cases channel with
  | none =>
      change chSemicolon ∉ ascii "-1"
      decide
  | some n => exact semicolon_printInt n

theorem semicolon_printPorts (rtp rtcp : Option Nat) :
    chSemicolon ∉ printPorts rtp rtcp := by
  have hDash : chSemicolon ∉ ascii "-" := by
    decide
  unfold printPorts
  simp only [List.mem_append, semicolon_printChannel, hDash,
    or_self, not_false_eq_true]

theorem semicolon_printHex (n : Nat) :
    chSemicolon ∉ printHex n := by
  intro hMem
  rcases List.mem_map.mp hMem with ⟨c, hChar, hIs⟩
  have hAll : ∀ d < 16,
      (Nat.digitChar d).toUpper.toNat.toUInt8 ≠
        chSemicolon := by
    decide
  rw [String.toList_ofList] at hChar
  rcases List.mem_append.mp hChar with hZero | hDigit
  · rw [List.eq_of_mem_replicate hZero] at hIs
    exact absurd hIs (by decide)
  · rcases List.mem_map.mp hDigit with ⟨digit, hIn, rfl⟩
    rcases mem_toDigits hIn with ⟨d, hBound, rfl⟩
    exact hAll d hBound hIs

theorem fields_udp
    (env : Env)
    (hHost : chSemicolon ∉ localHost)
    (parsed : ParsedTransport)
    (rtpPort rtcpPort : UInt16) :
    transportFields
        (udpTransportString env localHost parsed rtpPort
          rtcpPort) =
      udpFields env localHost parsed rtpPort rtcpPort := by
  have hText :
      udpTransportString env localHost parsed rtpPort
          rtcpPort =
        [chSemicolon].intercalate
          (udpFields env localHost parsed rtpPort
            rtcpPort) := by
    have hSource :
        ascii "RTP/AVP;unicast;source=" =
          ascii "RTP/AVP" ++ chSemicolon ::
            (ascii "unicast" ++
              chSemicolon :: ascii "source=") := by
      decide
    have hClient :
        ascii ";client_port=" =
          chSemicolon :: ascii "client_port=" := by
      decide
    have hServer :
        ascii ";server_port=" =
          chSemicolon :: ascii "server_port=" := by
      decide
    have hSsrc :
        ascii ";ssrc=" = chSemicolon :: ascii "ssrc=" := by
      decide
    simp only [udpTransportString, hSource, hClient, hServer,
      hSsrc, udpFields, clientPort, printPorts, printChannel,
      List.intercalate, List.intersperse, List.flatten_cons,
      List.flatten_nil, List.append_assoc, List.cons_append,
      List.nil_append, List.append_nil]
  unfold transportFields
  rw [hText]
  apply List.splitOn_intercalate
  · have hWords : ∀ word ∈
        ["RTP/AVP", "unicast", "source=", "client_port=",
          "server_port=", "ssrc="],
        chSemicolon ∉ ascii word := by
      decide
    simp only [List.forall_mem_cons] at hWords
    rcases hWords with
      ⟨hRtp, hUnicast, hSource, hClient, hServer, hSsrc, _⟩
    simp only [udpFields, clientPort, List.forall_mem_cons,
      List.mem_append, hRtp, hUnicast, hSource, hHost, hClient,
      hServer, hSsrc, semicolon_printPorts, semicolon_printHex,
      or_self, not_false_eq_true, true_and]
    exact List.forall_mem_nil _
  · exact List.cons_ne_nil _ _

theorem fields_tcp
    (env : Env)
    (rtp rtcp : Nat) :
    transportFields (tcpTransportString env rtp rtcp) =
      tcpFields env rtp rtcp := by
  have hText :
      tcpTransportString env rtp rtcp =
        [chSemicolon].intercalate (tcpFields env rtp rtcp) := by
    have hTcp :
        ascii "RTP/AVP/TCP;interleaved=" =
          ascii "RTP/AVP/TCP" ++
            chSemicolon :: ascii "interleaved=" := by
      decide
    have hSsrc :
        ascii ";ssrc=" = chSemicolon :: ascii "ssrc=" := by
      decide
    simp only [tcpTransportString, hTcp, hSsrc, tcpFields,
      printPorts, printChannel, List.intercalate,
      List.intersperse, List.flatten_cons, List.flatten_nil,
      List.append_assoc, List.cons_append, List.nil_append,
      List.append_nil]
  unfold transportFields
  rw [hText]
  apply List.splitOn_intercalate
  · have hWords : ∀ word ∈
        ["RTP/AVP/TCP", "interleaved=", "ssrc="],
        chSemicolon ∉ ascii word := by
      decide
    simp only [List.forall_mem_cons] at hWords
    rcases hWords with ⟨hTcp, hInterleaved, hSsrc, _⟩
    simp only [tcpFields, List.forall_mem_cons,
      List.mem_append, hTcp, hInterleaved, hSsrc,
      semicolon_printPorts, semicolon_printHex, or_self,
      not_false_eq_true, true_and]
    exact List.forall_mem_nil _
  · exact List.cons_ne_nil _ _

end Play

end Feng

------------------------------------------------------------
-- What Is Described
------------------------------------------------------------

namespace Feng

namespace Play

variable {env : Env} {localHost : List UInt8}
variable {parsed : ParsedTransport} {offer : OfferedTransport}
variable {rtp rtcp : Nat} {rtpPort rtcpPort : UInt16}

/- Neither word starts with the other. -/
def Apart (word other : String) : Prop :=
  ¬ ascii word <+: ascii other ∧
    ¬ ascii other <+: ascii word

instance decidableApart (word other : String) :
    Decidable (Apart word other) :=
  inferInstanceAs (Decidable (_ ∧ _))

theorem Apart.ne
    {word other : String}
    (h : Apart word other)
    (first second : List UInt8) :
    ascii word ++ first ≠ ascii other ++ second := by
  intro hSame
  have hFirst : ascii word <+: ascii word ++ first :=
    List.prefix_append _ _
  have hSecond : ascii other <+: ascii word ++ first := by
    rw [hSame]
    exact List.prefix_append _ _
  rcases List.prefix_or_prefix_of_prefix hFirst hSecond with
    hWord | hOther
  · exact h.1 hWord
  · exact h.2 hOther

theorem Apart.ne_word
    {word other : String}
    (h : Apart word other)
    (second : List UInt8) :
    ascii word ≠ ascii other ++ second := by
  rw [← List.append_nil (ascii word)]
  exact h.ne [] second

theorem multicast_udp :
    ascii "multicast" ∉
      udpFields env localHost parsed rtpPort rtcpPort := by
  have hWords : ∀ other ∈
      ["RTP/AVP", "unicast", "source=", "client_port=",
        "server_port=", "ssrc="],
      Apart "multicast" other := by
    decide
  simp only [List.forall_mem_cons] at hWords
  rcases hWords with
    ⟨hRtp, hUnicast, hSource, hClient, hServer, hSsrc, _⟩
  have hFirst := hRtp.ne_word []
  have hSecond := hUnicast.ne_word []
  rw [List.append_nil] at hFirst hSecond
  simp only [udpFields, clientPort, List.mem_cons, hFirst,
    hSecond, hSource.ne_word, hClient.ne_word,
    hServer.ne_word, hSsrc.ne_word, List.not_mem_nil, or_self,
    not_false_eq_true]

theorem multicast_tcp :
    ascii "multicast" ∉ tcpFields env rtp rtcp := by
  have hWords : ∀ other ∈
      ["RTP/AVP/TCP", "interleaved=", "ssrc="],
      Apart "multicast" other := by
    decide
  simp only [List.forall_mem_cons] at hWords
  rcases hWords with ⟨hTcp, hInterleaved, hSsrc, _⟩
  have hFirst := hTcp.ne_word []
  rw [List.append_nil] at hFirst
  simp only [tcpFields, List.mem_cons, hFirst,
    hInterleaved.ne_word, hSsrc.ne_word, List.not_mem_nil,
    or_self, not_false_eq_true]

theorem clientPort_udp_iff :
    clientPort (some rtp) (some rtcp) ∈
        udpFields env localHost parsed rtpPort rtcpPort ↔
      parsed.rtpChannel = some rtp ∧
        parsed.rtcpChannel = some rtcp := by
  have hWords : ∀ other ∈
      ["RTP/AVP", "unicast", "source=", "server_port=",
        "ssrc="],
      Apart "client_port=" other := by
    decide
  simp only [List.forall_mem_cons] at hWords
  rcases hWords with
    ⟨hRtp, hUnicast, hSource, hServer, hSsrc, _⟩
  have hFirst := hRtp.ne (printPorts (some rtp) (some rtcp)) []
  have hSecond :=
    hUnicast.ne (printPorts (some rtp) (some rtcp)) []
  rw [List.append_nil] at hFirst hSecond
  simp only [udpFields, clientPort, List.mem_cons, hFirst,
    hSecond, hSource.ne, hServer.ne, hSsrc.ne,
    List.not_mem_nil, false_or, or_false,
    List.append_cancel_left_eq, printPorts_eq_iff]

/- A transport over UDP is that of an offer with its ports. -/
theorem describes_udp_iff
    (hHost : chSemicolon ∉ localHost) :
    Describes
        (udpTransportString env localHost parsed rtpPort
          rtcpPort) offer ↔
      offer.protocol = .udp ∧ offer.mode = .unicast ∧
        ∃ rtp rtcp,
          offer.rtpChannel = some rtp ∧
            offer.rtcpChannel = some rtcp ∧
            parsed.rtpChannel = some rtp ∧
            parsed.rtcpChannel = some rtcp := by
  have hFields :=
    fields_udp env hHost parsed rtpPort rtcpPort
  constructor
  · rintro ⟨hProtocol, hMode, hPorts⟩
    rw [hFields] at hProtocol hMode hPorts
    have hUdp : offer.protocol = .udp := by
      cases hIs : offer.protocol with
      | udp => rfl
      | tcp =>
          rw [hIs] at hProtocol
          exact absurd (Option.some.inj hProtocol)
            (by decide)
      | sctp =>
          rw [hIs] at hProtocol
          exact absurd (Option.some.inj hProtocol)
            (by decide)
    refine ⟨hUdp, ?_, ?_⟩
    · cases hIs : offer.mode with
      | unicast => rfl
      | multicast => exact absurd (hMode.mpr hIs) multicast_udp
    · rcases hPorts hUdp with ⟨rtp, rtcp, hRtp, hRtcp, hMem⟩
      exact ⟨rtp, rtcp, hRtp, hRtcp,
        clientPort_udp_iff.mp hMem⟩
  · rintro ⟨hUdp, hUnicast, rtp, rtcp, hRtp, hRtcp, hParsed⟩
    refine ⟨?_, ?_, ?_⟩
    · rw [hFields, hUdp]
      rfl
    · rw [hFields, hUnicast]
      exact iff_of_false multicast_udp nofun
    · intro _
      rw [hFields]
      exact ⟨rtp, rtcp, hRtp, hRtcp,
        clientPort_udp_iff.mpr hParsed⟩

theorem describes_tcp_iff :
    Describes (tcpTransportString env rtp rtcp) offer ↔
      offer.protocol = .tcp ∧ offer.mode = .unicast := by
  have hFields := fields_tcp env rtp rtcp
  constructor
  · rintro ⟨hProtocol, hMode, hPorts⟩
    rw [hFields] at hProtocol hMode
    constructor
    · cases hIs : offer.protocol with
      | tcp => rfl
      | udp =>
          rw [hIs] at hProtocol
          exact absurd (Option.some.inj hProtocol)
            (by decide)
      | sctp =>
          rw [hIs] at hProtocol
          exact absurd (Option.some.inj hProtocol)
            (by decide)
    · cases hIs : offer.mode with
      | unicast => rfl
      | multicast => exact absurd (hMode.mpr hIs) multicast_tcp
  · rintro ⟨hTcp, hUnicast⟩
    refine ⟨?_, ?_, ?_⟩
    · rw [hFields, hTcp]
      rfl
    · rw [hFields, hUnicast]
      exact iff_of_false multicast_tcp nofun
    · intro hUdp
      rw [hTcp] at hUdp
      cases hUdp

end Play

end Feng

------------------------------------------------------------
-- SETUP Answered With 200
------------------------------------------------------------

namespace Feng

namespace Play

variable {env : Env} {localHost : List UInt8}
variable {calls : Nat → UdpResults} {req : RFC822Request}
variable {s t u : Client} {response : RFC822Response}
variable {address : Nat} {x y : TransportState}
variable {proposal : Proposal}
variable {offers : List OfferedTransport}

/- The text comes from the function that was successful. -/
theorem initTransport_text
    {transport : RTPTransport}
    {text : List UInt8}
    (hInit :
      initTransport env localHost address x proposal =
        some (y, some (transport, text))) :
    (proposal.parsed.protocol = .udp ∧
      ∃ rtpPort rtcpPort,
        text =
          udpTransportString env localHost proposal.parsed
            rtpPort rtcpPort) ∨
    (proposal.parsed.protocol = .tcp ∧
      ∃ rtp rtcp, text = tcpTransportString env rtp rtcp) := by
  unfold initTransport at hInit
  cases hProtocol : proposal.parsed.protocol with
  | sctp =>
      rw [hProtocol] at hInit
      cases hInit
  | tcp =>
      simp only [hProtocol, rtpTransportTable,
        Option.map_some, initInterleaved,
        rtpInterleavedTransport] at hInit
      split at hInit
      · cases hInit
      · cases hInit
        exact .inr ⟨rfl, _, _, rfl⟩
  | udp =>
      simp only [hProtocol, rtpTransportTable,
        Option.map_some, initUdp, rtpUdpTransport] at hInit
      refine .inl ⟨rfl, ?_⟩
      split at hInit
      · cases hInit
      split at hInit
      · cases hInit
      split at hInit
      · cases hInit
      split at hInit
      · cases hInit
      split at hInit
      · cases hInit
      split at hInit
      · cases hInit
      · cases hInit
        exact ⟨_, _, rfl⟩

/- The client's RTSP side is not touched by a transport. -/
theorem initTransport_rtsp
    {chosen : Option ChosenTransport}
    (hInit :
      initTransport env localHost address x proposal =
        some (y, chosen)) :
    y.1.rtsp = x.1.rtsp := by
  unfold initTransport at hInit
  cases hProtocol : proposal.parsed.protocol with
  | sctp =>
      rw [hProtocol] at hInit
      cases hInit
  | tcp =>
      simp only [hProtocol, rtpTransportTable,
        Option.map_some, initInterleaved,
        rtpInterleavedTransport] at hInit
      split at hInit
      · cases hInit
        rfl
      · cases hInit
        rfl
  | udp =>
      simp only [hProtocol, rtpTransportTable,
        Option.map_some, initUdp] at hInit
      cases hInit
      rfl

/- A response that is not a success is the only one sent. -/
theorem Refused.status_ne
    (h : Refused req u t)
    (hSame : u.rtsp.responses = s.rtsp.responses)
    (hSent :
      t.rtsp.responses = s.rtsp.responses ++ [response]) :
    response.status ≠ 200 := by
  rcases h with ⟨code, hCode, other, rfl, _, rfl⟩
  change u.rtsp.responses ++ [other] = _ at hSent
  rw [hSame] at hSent
  cases List.append_cancel_left hSent
  exact hCode

theorem openSession_responses (env : Env) (s : Client) :
    (openSession env s).1.rtsp.responses =
      s.rtsp.responses := by
  unfold openSession
  cases s.rtsp.session with
  | none => rfl
  | some session => rfl

/- SETUP goes on with a session, or it has refused. -/
theorem setupStart_cases
    {track : Option (List UInt8)}
    (hStart : setupStart env s req = .ok (u, track)) :
    (track = none ∧ ∃ v,
      v.rtsp.responses = s.rtsp.responses ∧
        Refused req v u) ∨
    (track.isSome = true ∧
      u.rtsp.responses = s.rtsp.responses ∧
        ∃ next, u.rtsp.session = some next) := by
  unfold setupStart at hStart
  rcases rfc822RequestCheckUrl_cases req s.rtsp with
    ⟨_, hCheck⟩ | ⟨_, denied, hDenied, hCheck⟩ |
    ⟨_, fault, hCheck⟩
  · rw [hCheck] at hStart
    simp only at hStart
    split at hStart
    · cases hStart
      exact .inl ⟨rfl, s, rfl,
        refused_quick req s 461 (by decide)⟩
    · have hSession := openSession_session env s
      split at hStart
      · cases hStart
      · rename_i hTrack
        cases hStart
        rcases selectRequestedTrack_cases hSession hTrack with
          ⟨next, _, ⟨hNone, hDenied⟩ | ⟨hSome, _, rfl⟩⟩
        · refine .inl ⟨hNone,
            { (openSession env s).1 with
              rtsp :=
                { (openSession env s).1.rtsp with
                  session := some next } }, ?_, ?_⟩
          · exact openSession_responses env s
          · exact hDenied.refused
        · exact .inr ⟨hSome, openSession_responses env s,
            next, rfl⟩
  · rw [hCheck] at hStart
    cases hStart
    exact .inl ⟨rfl, s, rfl, hDenied.refused⟩
  · rw [hCheck] at hStart
    cases hStart

/- The first proposal that can be set up. -/
def Chosen
    (env : Env)
    (localHost : List UInt8)
    (s : Client)
    (proposals : List Proposal)
    (proposal : Proposal) : Prop :=
  ∃ before behind x y chosen,
    proposals = before ++ proposal :: behind ∧
      AllFail (initTransport env localHost s.nextAddress)
        (selectionStart s) before x ∧
      initTransport env localHost s.nextAddress x proposal =
        some (y, some chosen)

/-
  A SETUP that is answered with 200 has set up one proposal,
  and its transport is in the reply.
-/
theorem rtspSetupCalls_answered
    (hSetup :
      rtspSetupCalls env localHost calls s req = .ok t)
    (hSent :
      t.rtsp.responses = s.rtsp.responses ++ [response])
    (hOk : response.status = 200) :
    ∃ u track x transport text,
      setupStart env s req = .ok (u, some track) ∧
        tryInOrder (initTransport env localHost u.nextAddress)
            (selectionStart u)
            (proposalsOf (offeredBy req) calls) =
          some (x, some (transport, text)) ∧
        rfc822HeadersLookup (some response.headers)
            .transport =
          some text := by
  unfold rtspSetupCalls at hSetup
  split at hSetup
  · cases hSetup
  · rename_i u hStart
    cases hSetup
    rcases setupStart_cases hStart with
      ⟨_, v, hSame, hRefused⟩ | ⟨hSome, _⟩
    · exact absurd hOk (hRefused.status_ne hSame hSent)
    · cases hSome
  · rename_i u track hStart
    rcases setupStart_cases hStart with
      ⟨hNone, _⟩ | ⟨_, hSame, next, hNext⟩
    · cases hNone
    refine ⟨u, track, ?_⟩
    unfold setupTrackCalls at hSetup
    rw [rtpSessionNewCalls_eq] at hSetup
    cases hTry :
      tryInOrder (initTransport env localHost u.nextAddress)
        (selectionStart u)
        (proposalsOf (offeredBy req) calls) with
    | none =>
        rw [hTry] at hSetup
        cases hSetup
    | some result =>
        rcases result with ⟨x, chosen⟩
        have hRtsp : x.1.rtsp = u.rtsp :=
          tryInOrder_keeps
            (P := fun x : TransportState =>
              x.1.rtsp = u.rtsp)
            (fun _ _ _ _ hInit hKept =>
              (initTransport_rtsp hInit).trans hKept)
            rfl hTry
        rw [hTry] at hSetup
        rcases chosen with _ | ⟨transport, text⟩
        · cases hSetup
          refine absurd hOk
            ((refused_quick req x.1 461
              (by decide)).status_ne ?_ hSent)
          rw [hRtsp, hSame]
        · refine ⟨x, transport, text, hStart, rfl, ?_⟩
          cases hSetup
          simp only [Client.setSessions, Feng.setupTrack,
            hRtsp, hNext, Env.urlEnv] at hSent
          change u.rtsp.responses ++ [_] = _ at hSent
          rw [hSame] at hSent
          cases List.append_cancel_left hSent
          rw [rfc822HeadersLookup_set, if_neg (by decide),
            rfc822HeadersLookup_set, if_pos rfl]

end Play

end Feng

------------------------------------------------------------
-- Offers And Replies
------------------------------------------------------------

namespace Feng

namespace Play

variable {env : Env} {localHost : List UInt8}
variable {calls : Nat → UdpResults} {req : RFC822Request}
variable {s t : Client} {response : RFC822Response}
variable {address : Nat} {x y : TransportState}
variable {proposal : Proposal} {chosen : ChosenTransport}
variable {offers : List OfferedTransport}

/-
  A transport is offered with the mode that is reported for
  it, and over UDP with the ports that are: both are given.
-/
def Answerable
    (offers : List OfferedTransport)
    (parsed : ParsedTransport) : Prop :=
  ∃ offer ∈ offers,
    offer.protocol = parsed.protocol ∧
      offer.mode = .unicast ∧
      (parsed.protocol = .udp → ∃ rtp rtcp,
        offer.rtpChannel = some rtp ∧
          offer.rtcpChannel = some rtcp ∧
          parsed.rtpChannel = some rtp ∧
          parsed.rtcpChannel = some rtcp)

theorem answerable_iff
    (hHost : chSemicolon ∉ localHost)
    (hInit :
      initTransport env localHost address x proposal =
        some (y, some chosen)) :
    (∃ offer ∈ offers, Describes chosen.2 offer) ↔
      Answerable offers proposal.parsed := by
  rcases chosen with ⟨transport, text⟩
  apply exists_congr
  intro offer
  apply and_congr_right
  intro _
  rcases initTransport_text hInit with
    ⟨hUdp, rtpPort, rtcpPort, rfl⟩ | ⟨hTcp, rtp, rtcp, rfl⟩
  · rw [describes_udp_iff hHost, hUdp]
    simp only [true_implies]
  · rw [describes_tcp_iff, hTcp]
    simp only [reduceCtorEq, false_implies, and_true]

theorem chosen_unique
    {u : Client}
    {proposals : List Proposal}
    {found : ChosenTransport}
    (hTry :
      tryInOrder (initTransport env localHost u.nextAddress)
          (selectionStart u) proposals =
        some (y, some found))
    (hChosen : Chosen env localHost u proposals proposal) :
    ∃ x, initTransport env localHost u.nextAddress x proposal =
      some (y, some found) := by
  rcases hChosen with
    ⟨before, behind, x, z, chosen, hList, hFail, hInit⟩
  have hSuccess := tryInOrder_eq_success.mpr
    ⟨before, proposal, behind, x, hList, hFail, hInit⟩
  rw [hTry] at hSuccess
  cases hSuccess
  exact ⟨x, hInit⟩

/-
  The reply to a SETUP describes one of the offers if and only
  if the proposal that was set up is offered as unicast and,
  over UDP, with both of its ports.
-/
theorem setup_describes_iff
    (hHost : chSemicolon ∉ localHost)
    (hSetup :
      rtspSetupCalls env localHost calls s req = .ok t)
    (hSent :
      t.rtsp.responses = s.rtsp.responses ++ [response])
    (hOk : response.status = 200) :
    (∃ text,
      rfc822HeadersLookup (some response.headers) .transport =
          some text ∧
        ∃ offer ∈ offeredBy req, Describes text offer) ↔
      ∃ u track proposal,
        setupStart env s req = .ok (u, some track) ∧
          Chosen env localHost u
            (proposalsOf (offeredBy req) calls) proposal ∧
          Answerable (offeredBy req) proposal.parsed := by
  rcases rtspSetupCalls_answered hSetup hSent hOk with
    ⟨u, track, x, transport, text, hStart, hTry, hText⟩
  rw [hText]
  constructor
  · rintro ⟨_, hIs, hDescribes⟩
    cases hIs
    rcases tryInOrder_eq_success.mp hTry with
      ⟨before, proposal, behind, y, hList, hFail, hInit⟩
    exact ⟨u, track, proposal, hStart,
      ⟨before, behind, y, x, _, hList, hFail, hInit⟩,
      (answerable_iff hHost hInit).mp hDescribes⟩
  · rintro ⟨v, _, proposal, hSame, hChosen, hAnswerable⟩
    rw [hStart] at hSame
    cases hSame
    rcases chosen_unique hTry hChosen with ⟨y, hInit⟩
    exact ⟨text, rfl,
      (answerable_iff hHost hInit).mpr hAnswerable⟩

/- What SETUP makes of a new client, with working sockets. -/
def setUpWith (header : List UInt8) : Client :=
  match rtspSetupCalls (sampleEnv 1000) (ascii "127.0.0.1")
    (fun _ => workingCalls) clientNew
    (transportRequest header) with
  | .ok t => t
  | .error _ => clientNew

def setupReply (header : List UInt8) : RFC822Response :=
  (setUpWith header).rtsp.responses.getLast?.getD
    (rtspQuickResponse (transportRequest header) 461)

theorem setup_describes_iff_udp :
    (∃ text,
      rfc822HeadersLookup
            (some (setupReply udpOffer).headers) .transport =
          some text ∧
        ∃ offer ∈ offeredBy (transportRequest udpOffer),
          Describes text offer) ↔
      ∃ u track proposal,
        setupStart (sampleEnv 1000) clientNew
            (transportRequest udpOffer) =
          .ok (u, some track) ∧
          Chosen (sampleEnv 1000) (ascii "127.0.0.1") u
            (proposalsOf (offeredBy (transportRequest udpOffer))
              (fun _ => workingCalls)) proposal ∧
          Answerable (offeredBy (transportRequest udpOffer))
            proposal.parsed :=
  setup_describes_iff (t := setUpWith udpOffer)
    (by decide +kernel) (by decide +kernel)
    (by decide +kernel) (by decide +kernel)

def multicastOffer : List UInt8 :=
  ascii "RTP/AVP;multicast;client_port=300-400"

/- The reply is unicast, to the port -1. -/
theorem multicast_not_described :
    rtspSetupCalls (sampleEnv 1000) (ascii "127.0.0.1")
          (fun _ => workingCalls) clientNew
          (transportRequest multicastOffer) =
        .ok (setUpWith multicastOffer) ∧
      (setUpWith multicastOffer).rtsp.responses =
        clientNew.rtsp.responses ++
          [setupReply multicastOffer] ∧
      (setupReply multicastOffer).status = 200 ∧
      offeredBy (transportRequest multicastOffer) =
        [{ protocol := .udp
           rtpChannel := none
           rtcpChannel := none
           mode := .multicast }] ∧
      ¬ ∃ text,
        rfc822HeadersLookup
              (some (setupReply multicastOffer).headers)
              .transport =
            some text ∧
          ∃ offer ∈ offeredBy (transportRequest multicastOffer),
            Describes text offer := by
  have hOffers :
      offeredBy (transportRequest multicastOffer) =
        [{ protocol := .udp
           rtpChannel := none
           rtcpChannel := none
           mode := .multicast }] := by
    decide +kernel
  have hText :
      rfc822HeadersLookup
          (some (setupReply multicastOffer).headers)
          .transport =
        some (ascii
          ("RTP/AVP;unicast;source=127.0.0.1;" ++
            "client_port=-1--1;server_port=6000-6001;" ++
            "ssrc=00000001")) := by
    decide +kernel
  refine ⟨by decide +kernel, by decide +kernel,
    by decide +kernel, hOffers, ?_⟩
  rintro ⟨text, hIs, offer, hMem, hDescribes⟩
  rw [hText] at hIs
  cases hIs
  rw [hOffers] at hMem
  cases List.mem_singleton.mp hMem
  exact absurd (hDescribes.mode.mpr rfl) (by decide +kernel)

end Play

end Feng
