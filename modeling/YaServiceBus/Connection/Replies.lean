import YaServiceBus.Connection.Step

/-! The five reply queues of the connection. `send_cmd_async` queues a waiter for every
command it handles and writes the command, and each reply frame pops the oldest waiter of its
kind: over a whole run the replies are matched to the commands by position, and a reply with
no command left to answer stops the connection. -/
namespace YaServiceBus

namespace Connection

variable {u : Utf8} {display : Error → String}

end Connection

end YaServiceBus
