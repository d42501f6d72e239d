import Xdm.Lib.Prog
import Xdm.Lib.Run
import Xdm.Lib.LeadsTo
import Xdm.Lib.Keyed
import Xdm.Lib.Round
import Xdm.Lib.LineEdit
import Xdm.Lib.Timed
import Xdm.Lib.Codec
import Xdm.Lib.Writer
import Xdm.Base
import Xdm.Netaddr
import Xdm.Names
import Xdm.Access.Reader
import Xdm.Access.Control
import Xdm.Access.Lines
import Xdm.Access.Words
import Xdm.Access.Grammar
import Xdm.Access.Continuation
import Xdm.Access.Scans
import Xdm.KeyFile
import Xdm.Sockets.Listen
import Xdm.Sockets.Update
import Xdm.Sockets.Sweep
import Xdm.Sockets.Named
import Xdm.Sockets.Passed
import Xdm.Sockets.Followed
import Xdm.Sockets.Bound
import Xdm.Sockets.Restart
import Xdm.Sockets.Mask
import Xdm.Sockets.Fork
import Xdm.CloseOnFork
import Xdm.Sockets.Families
import Xdm.Util
import Xdm.Environ
import Xdm.State
import Xdm.Dpylist
import Xdm.Server
import Xdm.File
import Xdm.Xdmcp.Replies
import Xdm.Dm
import Xdm.Protodpy
import Xdm.Choose
import Xdm.Auth
import Xdm.AuthorizationNames
import Xdm.Xdmcp.Buffer
import Xdm.Xdmcp.Wire
import Xdm.Xdmcp.Query
import Xdm.Xdmcp.Session
import Xdm.Xdmcp.Process
import Xdm.Daemon
import Xdm.Sound
import Xdm.LifeCycle
import Xdm.Xdmcp.Effects
import Xdm.Xdmcp.Negotiation
import Xdm.Runs
import Xdm.Sessions
import Xdm.Refuse
import Xdm.Authorization
import Xdm.LocalDisplays
import Xdm.MissingFields
import Xdm.Rescanned
import Xdm.Choices
import Xdm.ChoiceRecords
import Xdm.Throttle
import Xdm.DirectService
import Xdm.Hostnames
import Xdm.Connections
import Xdm.ProtoDisplays
import Xdm.ProtoTimeouts
import Xdm.Packets
import Xdm.KeepAlive
import Xdm.ConnectionSizes
import Xdm.Authentication
import Xdm.OneDisplay
import Xdm.Attended
import Xdm.Removal
import Xdm.Operations
import Xdm.Managing
import Xdm.Debris
import Xdm.Unique
import Xdm.Happenings
import Xdm.Readded
import Xdm.Restarts
import Xdm.Rescan
import Xdm.ServersFile
import Xdm.ServersLines
import Xdm.Signals
import Xdm.Indirect
import Xdm.Xdmcp.Messages
import Xdm.Emissions
import Xdm.ReplySizes
import Xdm.Forwarding
import Xdm.Chooser.Packets
import Xdm.Chooser.Arguments
import Xdm.Chooser.Answer
import Xdm.Chooser.RoundTrip
import Xdm.Chooser.Hosts
import Xdm.Chooser.Selection
import Xdm.Chooser.Accept
import Xdm.Chooser.Register
import Xdm.Lib.Glob
import Xdm.Access.Clients
import Xdm.Access.Macros
import Xdm.Lib.Files
import Xdm.UserAuth.Entries
import Xdm.UserAuth.Authority
import Xdm.UserAuth.Links
import Xdm.Greeter.Verify
import Xdm.Greeter.Greet
import Xdm.Greeter.Progress
import Xdm.Greeter.Prompt
import Xdm.Greeter.Fail
import Xdm.Greeter.Login
import Xdm.Greeter.Editing
import Xdm.Greeter.Values
import Xdm.Lib.Lts
import Xdm.Lib.Supervisor
import Xdm.Actions
import Xdm.Supervision
import Xdm.Shutdown
import Xdm.ServerPause
import Xdm.PidFile
import Xdm.Lib.Cascade
import Xdm.Cascades
import Xdm.ManageSession
import Xdm.SessionEnd
import Xdm.ServerAuth
import Xdm.Resources
import Xdm.Execute
import Xdm.StartClient
