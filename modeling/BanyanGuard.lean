import BanyanGuard.Errors
import BanyanGuard.Config
import BanyanGuard.StateMachine
import BanyanGuard.Update.Dispatch
import BanyanGuard.Heartbeat
import BanyanGuard.Lifecycle
import BanyanGuard.Guard
import BanyanGuard.Trust
import BanyanGuard.Utf8
import BanyanGuard.Query
import BanyanGuard.Json
import BanyanGuard.License
import BanyanGuard.Path
import BanyanGuard.Update.Stream
import BanyanGuard.Fs
import BanyanGuard.Update.Effects
import BanyanGuard.Update.Binary
import BanyanGuard.Update.Frontend
import BanyanGuard.Update.Extraction
import BanyanGuard.Update.Attempt
import BanyanGuard.Update.Plugin
import BanyanGuard.LicenseCache
import BanyanGuard.Version
import BanyanGuard.Update.Records
import BanyanGuard.Update.Swap
import BanyanGuard.Update.Concurrent
