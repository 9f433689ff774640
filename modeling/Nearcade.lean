import Nearcade.Support.Runs
import Nearcade.Support.Resources
import Nearcade.Support.Evdev
import Nearcade.Support.Text
import Nearcade.Support.Json
import Nearcade.Support.Memory
import Nearcade.Support.Table
import Nearcade.Support.Allocation
import Nearcade.Support.Queue
import Nearcade.Support.Format
import Nearcade.Support.Locks
import Nearcade.Source.Header
import Nearcade.Source.Internal
import Nearcade.Source.InputLinux
import Nearcade.Source.Capture
import Nearcade.Source.Signaling
import Nearcade.Source.Webrtc
import Nearcade.Source.Orchestrator
import Nearcade.Source.Builds
import Nearcade.System.Machine
import Nearcade.System.Unread
import Nearcade.Source.Ports
import Nearcade.Source.Godot
import Nearcade.Source.Locking
import Nearcade.System.Effects
import Nearcade.System.Ports
import Nearcade.System.Invariants
import Nearcade.System.Events
import Nearcade.System.Locking
import Nearcade.System.Footprint
import Nearcade.System.Devices
import Nearcade.System.Getters
import Nearcade.Input.Descriptors
import Nearcade.Input.Targets
import Nearcade.Input.Controller
import Nearcade.Input.Keyboard
import Nearcade.Input.Buttons
import Nearcade.Input.Reallocation
import Nearcade.Signaling.Table
import Nearcade.Signaling.Service
import Nearcade.Signaling.Sessions
import Nearcade.Signaling.Restart
import Nearcade.Signaling.Context
import Nearcade.Signaling.Exit
import Nearcade.Handshake.Incoming
import Nearcade.Handshake.Outgoing
import Nearcade.Lanes.Video
import Nearcade.Lanes.Attribution
import Nearcade.Lanes.Packets
import Nearcade.Lanes.Isolation
import Nearcade.Lanes.Injection
import Nearcade.Viewers.Balance
import Nearcade.Viewers.Registry
import Nearcade.Lifecycle.Flags
import Nearcade.Lifecycle.Reinit
import Nearcade.Lifecycle.Lifetimes
import Nearcade.Lifecycle.Encoder
import Nearcade.Lifecycle.Arguments
import Nearcade.Lifecycle.Fresh
import Nearcade.Input.Ranges
import Nearcade.Lifecycle.Rollback
import Nearcade.Viewers.Disabled
import Nearcade.Viewers.Severed
import Nearcade.Viewers.Slots
import Nearcade.Viewers.Disconnect
import Nearcade.Signaling.Held
import Nearcade.Signaling.Delivery
import Nearcade.Lifecycle.Streaming
import Nearcade.Handshake.Dispatch
import Nearcade.Handshake.Applied
import Nearcade.Handshake.Ids
import Nearcade.Handshake.Relay
import Nearcade.Handshake.Escaper
import Nearcade.Handshake.Extraction
import Nearcade.Signaling.Paths
import Nearcade.Bindings.Events
import Nearcade.Bindings.Packets
import Nearcade.Bindings.Session
