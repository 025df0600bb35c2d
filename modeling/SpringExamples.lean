import SpringExamples.Foundation.Runs
import SpringExamples.Foundation.Pool
import SpringExamples.Foundation.RowLocks
import SpringExamples.Foundation.Precedence
import SpringExamples.Foundation.Refreshing
import SpringExamples.Foundation.JavaInteger
import SpringExamples.Foundation.MultiMap
import SpringExamples.Foundation.FirstMatch
import SpringExamples.Foundation.Effects
import SpringExamples.Foundation.DelimitedText
import SpringExamples.Integration.Message
import SpringExamples.Counter.RedisCounter
import SpringExamples.Counter.MySqlCounter
import SpringExamples.Counter.MySqlClients
import SpringExamples.Counter.RedisClients
import SpringExamples.Counter.RedisBounds
import SpringExamples.Comet.Adapter
import SpringExamples.Comet.FailedBroadcasts
import SpringExamples.Comet.Lifecycle
import SpringExamples.Comet.Batching
import SpringExamples.Comet.ConcurrentAdapter
import SpringExamples.Comet.StreamOrder
import SpringExamples.Comet.ConcurrentRestarts
import SpringExamples.Comet.Endpoints
import SpringExamples.Comet.Subscribers
import SpringExamples.Comet.ContentNegotiation
import SpringExamples.Comet.ResponseWriting
import SpringExamples.Comet.RequestReading
import SpringExamples.Comet.Publishing
import SpringExamples.Chat.DwrAdapter
import SpringExamples.Chat.ChatRoom
import SpringExamples.Chat.PrivateMessages
import SpringExamples.Chat.Roster
import SpringExamples.Chat.RosterText
import SpringExamples.Chat.Pages
import SpringExamples.Chat.Convergence
import SpringExamples.Chat.DirectMessages
import SpringExamples.Chat.ConcurrentRoster
import SpringExamples.Chat.AtomicRoster
import SpringExamples.Chat.SerialJoins
import SpringExamples.Orders.Store
import SpringExamples.Orders.Jpa
import SpringExamples.Orders.Services
import SpringExamples.Orders.Totals
import SpringExamples.Orders.History
import SpringExamples.Orders.ConcurrentTotals
import SpringExamples.Orders.SerialAdditions
import SpringExamples.Jdbc.RawCustomerRepository
import SpringExamples.Jdbc.ThreadConnections
import SpringExamples.Jdbc.Statements
import SpringExamples.Jdbc.Database
import SpringExamples.Jdbc.RawExecution
import SpringExamples.Jdbc.RawSave
import SpringExamples.Jdbc.AllOrNothing
import SpringExamples.Jdbc.JdbcTemplateCustomerRepository
import SpringExamples.Jdbc.Interchangeable
import SpringExamples.Jdbc.CustomerService
import SpringExamples.Batch.JobParameters
