import YaServiceBus.Proto
import YaServiceBus.Connection.Basic
import YaServiceBus.Connection.Step
import YaServiceBus.Connection.Replies
import YaServiceBus.Connection.Calls
import YaServiceBus.Router.Slot
import YaServiceBus.Router.Bag
import YaServiceBus.Router.Basic
import YaServiceBus.Router.Legacy
import YaServiceBus.Router.Decode
import YaServiceBus.Router.Streams
import YaServiceBus.Router.Binding
import YaServiceBus.Router.Announce
import YaServiceBus.Router.Lookup
import YaServiceBus.Link.Basic
import YaServiceBus.Link.Pipeline
import YaServiceBus.Link.Drain
import YaServiceBus.Link.Remote
import YaServiceBus.Link.Forward
import YaServiceBus.Link.Serve
import YaServiceBus.Link.Control
