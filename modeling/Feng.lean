import Feng.Lib.Consecutive
import Feng.Lib.Reader
import Feng.Lib.Lines
import Feng.BufferQueue.Model
import Feng.BufferQueue.Cursor
import Feng.BufferQueue.Accounting
import Feng.BufferQueue.Runs
import Feng.BufferQueue.Unseen
import Feng.BufferQueue.Serial
import Feng.BufferQueue.Leaving
import Feng.BufferQueue.Live
import Feng.Rtp.Session
import Feng.Rtp.Sequence
import Feng.Client.Output
import Feng.Resource.Fill
import Feng.Resource.Seek
import Feng.Resource.Shared
import Feng.Lib.Ragel
import Feng.Lib.Packed
import Feng.Uri.Tables
import Feng.Uri.Parse
import Feng.Uri.Phases
import Feng.Uri.Segments
import Feng.Uri.Prefixes
import Feng.Uri.Unescape
import Feng.Uri.Fields
import Feng.Uri.Split
import Feng.Rtsp.Request
import Feng.Rtsp.Client
import Feng.Rtsp.Url
import Feng.Rtsp.Tables
import Feng.Lib.Framer
import Feng.Rtsp.Parser
import Feng.Rtsp.Scan
import Feng.Rtsp.Connection
import Feng.Rtsp.Server
import Feng.Rtsp.Faults
import Feng.Rtsp.Pending
import Feng.Rtsp.Links
import Feng.Rtsp.Tunnel
import Feng.Rtsp.TunnelTable
import Feng.Rtsp.Isolation
import Feng.Rtsp.Updates
import Feng.Rtsp.Assertions
import Feng.Rtsp.Bounded
import Feng.Rtsp.Handlers
import Feng.Rtsp.Values
import Feng.Rtsp.Received
import Feng.Rtsp.Consumed
import Feng.Rtsp.Rejected
import Feng.Rtsp.Loop
import Feng.Rtsp.Tracks
import Feng.Rtsp.Announced
import Feng.Rtsp.Frames
import Feng.Rtsp.Response
import Feng.Rtsp.Replies
import Feng.Play.Session
import Feng.Play.Methods
import Feng.Play.Cases
import Feng.Play.Answers
import Feng.Play.Invariant
import Feng.Play.Timer
import Feng.Play.Resume
import Feng.Play.Kicked
import Feng.Play.Head
import Feng.Play.Errors
import Feng.Play.Numbers
import Feng.Play.Sockets
import Feng.Play.Pause
import Feng.Play.Timestamps
import Feng.Play.Channels
import Feng.Play.Replies
import Feng.Play.Serving
import Feng.Lib.Attempts
import Feng.Range.Tables
import Feng.Range.Parse
import Feng.Range.Clock
import Feng.Play.Ranges
import Feng.Transport.Tables
import Feng.Transport.Parse
import Feng.Play.Selection
import Feng.Play.Described
import Feng.Lib.Bytes
import Feng.Lib.Calendar
import Feng.Rtcp.Handle
import Feng.Rtcp.Report
import Feng.Lib.Simulation
import Feng.Play.Protocol
import Feng.Play.Conversions
import Feng.Play.Connected
import Feng.Play.Alone
import Feng.Rtp.Delivery
import Feng.Rtp.Packet
