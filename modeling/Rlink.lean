import Rlink.Core
import Rlink.Kafka.InputSplits
import Rlink.Kafka.Enumeration
import Rlink.Kafka.Replication
import Rlink.Kafka.Coverage
import Rlink.Kafka.Open
import Rlink.Kafka.Lifecycle
import Rlink.Source.VecSource
import Rlink.Source.Lifecycle
import Rlink.System.InputFormat
import Rlink.System.ChannelIterator
import Rlink.Channel.NamedChannel
import Rlink.System.Reading
import Rlink.System.Lifecycle
import Rlink.Elasticsearch.Sink
import Rlink.Elasticsearch.Delivery
import Rlink.Elasticsearch.Progress
import Rlink.Elasticsearch.BatchSend
