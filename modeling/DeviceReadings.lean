import DeviceReadings.Config.Tree
import DeviceReadings.Main
import DeviceReadings.Plugin
import DeviceReadings.Source.Replay
import DeviceReadings.Proofs.Reader.Blocks
import DeviceReadings.Proofs.Reader.Sharing
import DeviceReadings.Proofs.Reader.Fallback
import DeviceReadings.Proofs.Reader.Readings
import DeviceReadings.Proofs.Plugin.Isolation
import DeviceReadings.Proofs.Plugin.Handles
import DeviceReadings.Proofs.Config.Document
import DeviceReadings.Proofs.Config.Places
import DeviceReadings.Proofs.Config.Truncation
import DeviceReadings.Proofs.Config.StrayNames
import DeviceReadings.Proofs.Plugin.Labels
import DeviceReadings.Proofs.CommandLine.Readings
import DeviceReadings.Proofs.Generator.CipherStream
import DeviceReadings.Proofs.Generator.ProductFold
import DeviceReadings.Proofs.Config.Reports
import DeviceReadings.Proofs.CommandLine.Log
import DeviceReadings.Proofs.Config.Loading
import DeviceReadings.Proofs.Plugin.Models
import DeviceReadings.Proofs.CommandLine.Options
