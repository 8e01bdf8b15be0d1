import JeuxServer.Game.Engine
import JeuxServer.Game.Rules
import JeuxServer.Game.MoveText
import JeuxServer.Protocol.Codec
import JeuxServer.Server.Heap
import JeuxServer.Server.Links
import JeuxServer.Server.InvitationNodes
import JeuxServer.Server.PlayerNodes
import JeuxServer.Server.Client
import JeuxServer.Server.Service
import JeuxServer.Server.UsersBuffer
import JeuxServer.Server.Stream
import JeuxServer.Server.Replies
import JeuxServer.Server.Handles
import JeuxServer.Server.InvitationMachine
import JeuxServer.Server.Shutdown
import JeuxServer.Server.Accounting
import JeuxServer.Server.ClientNodes
import JeuxServer.Server.PlayerAccounting
import JeuxServer.Server.Invariants
import JeuxServer.Server.Games
import JeuxServer.Server.Participants
import JeuxServer.Server.Notifications
import JeuxServer.Concurrency.Threads
import JeuxServer.Concurrency.Objects
import JeuxServer.Concurrency.Registry
import JeuxServer.Concurrency.PlayerRegistry
import JeuxServer.Concurrency.Operations
import JeuxServer.Concurrency.ServiceThread
import JeuxServer.Concurrency.Roles
import JeuxServer.Concurrency.Barrier
import JeuxServer.Concurrency.Sockets
