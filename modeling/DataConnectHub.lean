import DataConnectHub.MetaStore.Concurrency
import DataConnectHub.Auth.CacheSoundness
import DataConnectHub.Rest.SecretAccess
import DataConnectHub.Rest.FlightOwnership
import DataConnectHub.Rest.TypeStatus
import DataConnectHub.Rest.InlineCredentials
import DataConnectHub.Flight.Readiness
import DataConnectHub.Controller.SecretWatcher
import DataConnectHub.Controller.ReadyStatus
import DataConnectHub.Controller.TlsProfile
import DataConnectHub.Connectors.ReadOnly
import DataConnectHub.FormatReaders.Chunking
import DataConnectHub.Rest.Clashes
import DataConnectHub.S3.Listing
import DataConnectHub.Sdk.Failures
import DataConnectHub.Connectors.CachedReads
import DataConnectHub.Rest.ConnectionStatus
import DataConnectHub.Rest.Export
import DataConnectHub.Rest.MalformedRows
import DataConnectHub.Rest.Patches
import DataConnectHub.Connectors.RowBounds
import DataConnectHub.Connectors.UriObjects
import DataConnectHub.FormatReaders.Sample
import DataConnectHub.Milvus.Columns
import DataConnectHub.Neo4j.Nulls
import DataConnectHub.Postgres.Pgvector
import DataConnectHub.Rest.Capabilities
import DataConnectHub.Sdk.Tokens
import DataConnectHub.Controller.TraceEnv
import DataConnectHub.Rest.ConfigLog
import DataConnectHub.Sdk.CommandGetTables
import DataConnectHub.Controller.ParamsEnv
