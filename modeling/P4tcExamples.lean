import P4tcExamples.Library.BitFields
import P4tcExamples.Library.Octets
import P4tcExamples.Library.HostOrder
import P4tcExamples.Library.OnesComplement
import P4tcExamples.Library.PrefixMatch
import P4tcExamples.Library.ExactMatch
import P4tcExamples.Library.Regex
import P4tcExamples.Pna.Pipeline
import P4tcExamples.Pna.ParserRules
import P4tcExamples.Pna.Headers
import P4tcExamples.Pna.Checksum
import P4tcExamples.Pna.Rewrite
import P4tcExamples.Routing.Program
import P4tcExamples.Routing.Specification
import P4tcExamples.Routing.Path
import P4tcExamples.Ipip.Program
import P4tcExamples.Ipip.Encapsulation
import P4tcExamples.Ipip.TunnelHeader
import P4tcExamples.Ipip.Decapsulation
import P4tcExamples.SimpleL3.Program
import P4tcExamples.RedirectL2.Program
import P4tcExamples.ArpRespond.Program
import P4tcExamples.ArpRespond.Replies
import P4tcExamples.Forwarding.TtlWrap
import P4tcExamples.Forwarding.FailClosed
import P4tcExamples.Forwarding.Tunnel
import P4tcExamples.FlowTracker.Program
import P4tcExamples.FlowTracker.Transparency
import P4tcExamples.FlowTracker.Frames
import P4tcExamples.FlowTracker.Genuine
import P4tcExamples.FlowTracker.TrafficHistory
import P4tcExamples.FlowTracker.Options
import P4tcExamples.Calc.Program
import P4tcExamples.Calc.Replies
import P4tcExamples.Calc.Client
import P4tcExamples.Calc.Lines
import P4tcExamples.Calc.EndToEnd
import P4tcExamples.Calc.Grammar
import P4tcExamples.Generated.Macros
import P4tcExamples.Generated.Structs
import P4tcExamples.Generated.Parser
import P4tcExamples.Generated.Pipeline
import P4tcExamples.Generated.Tables
import P4tcExamples.Generated.Checksum
import P4tcExamples.Generated.RedirectL2
import P4tcExamples.Generated.SimpleL3
import P4tcExamples.Generated.Routing
import P4tcExamples.Generated.Ipip
import P4tcExamples.Generated.ArpRespond
import P4tcExamples.Generated.Calc
import P4tcExamples.Generated.FlowTracker
import P4tcExamples.Generated.ControlPlane
import P4tcExamples.Generated.Hosts
import P4tcExamples.Generated.Processors
import P4tcExamples.Library.Crc
import P4tcExamples.Generated.Crc
import P4tcExamples.Calc.Session
import P4tcExamples.Generated.Network
import P4tcExamples.Generated.OneLookup
