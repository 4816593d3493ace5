/-
  devcaps.c: the pretty printers of capabilities.

  Each is a table of the fields of its struct, printed by their names. All of them lie in the 256
  bytes that the hex form shows (`caps_printed`), so a printer prints of these bytes only
  (`printCap_congr`).
-/
import Mlx5ctl.Pretty
import Mlx5ctl.DevCaps

namespace Mlx5ctl.DevCaps

open ByteMem CInt Ifc

/-- A field of a capability, in the bytes that the hex form shows. -/
def capFld (off sz : Nat)
    (h : (0 < sz ∧ off % 32 + sz ≤ 32) ∧ off + sz ≤ 8 * capBytes := by decide) : Field :=
  ⟨off, sz, h.1.1, h.1.2⟩

/-- A 64-bit field there. -/
def capFld64 (off : Nat) (h : off % 64 = 0 ∧ off + 64 ≤ 8 * capBytes := by decide) : Field64 :=
  ⟨off, h.1⟩

/-- `printcap(cap)` -/
def printcap (name : String) (f : Field) : FieldLine := ⟨"\t" ++ name ++ ": %d\n", [], [.get f]⟩

/-- `printcap64(cap)`, with the format of the value. -/
def printcap64 (fmt name : String) (f : Field64) : FieldLine :=
  ⟨"\t" ++ name ++ ": " ++ fmt ++ "\n", [], [.get64 f]⟩

/-- `print_hca_caps`, of `cmd_hca_cap` -/
def printHcaCaps : List FieldLine :=
  [printcap "shared_object_to_user_object_allowed" (capFld 0x10 0x1),
    printcap "vhca_resource_manager" (capFld 0x1f 0x1),
    printcap "hca_cap_2" (capFld 0x20 0x1),
    printcap "create_lag_when_not_master_up" (capFld 0x21 0x1),
    printcap "dtor" (capFld 0x22 0x1),
    printcap "event_on_vhca_state_teardown_request" (capFld 0x23 0x1),
    printcap "event_on_vhca_state_in_use" (capFld 0x24 0x1),
    printcap "event_on_vhca_state_active" (capFld 0x25 0x1),
    printcap "event_on_vhca_state_allocated" (capFld 0x26 0x1),
    printcap "event_on_vhca_state_invalid" (capFld 0x27 0x1),
    printcap "vhca_id" (capFld 0x30 0x10),
    printcap "log_max_srq_sz" (capFld 0x80 0x8),
    printcap "log_max_qp_sz" (capFld 0x88 0x8),
    printcap "event_cap" (capFld 0x90 0x1),
    printcap "isolate_vl_tc_new" (capFld 0x93 0x1),
    printcap "prio_tag_required" (capFld 0x98 0x1),
    printcap "log_max_qp" (capFld 0x9b 0x5),
    printcap "ece_support" (capFld 0xa3 0x1),
    printcap "reg_c_preserve" (capFld 0xa9 0x1),
    printcap "log_max_srq" (capFld 0xab 0x5),
    printcap "uplink_follow" (capFld 0xb1 0x1),
    printcap "ts_cqe_to_dest_cqn" (capFld 0xb2 0x1),
    printcap "shampo" (capFld 0xba 0x1),
    printcap "max_sgl_for_optimized_performance" (capFld 0xc0 0x8),
    printcap "log_max_cq_sz" (capFld 0xc8 0x8),
    printcap "relaxed_ordering_write_umr" (capFld 0xd0 0x1),
    printcap "relaxed_ordering_read_umr" (capFld 0xd1 0x1),
    printcap "virtio_net_device_emualtion_manager" (capFld 0xd9 0x1),
    printcap "virtio_blk_device_emualtion_manager" (capFld 0xda 0x1),
    printcap "log_max_cq" (capFld 0xdb 0x5),
    printcap "log_max_eq_sz" (capFld 0xe0 0x8),
    printcap "relaxed_ordering_write" (capFld 0xe8 0x1),
    printcap "relaxed_ordering_read" (capFld 0xe9 0x1),
    printcap "log_max_mkey" (capFld 0xea 0x6),
    printcap "dump_fill_mkey" (capFld 0xf8 0x1),
    printcap "fast_teardown" (capFld 0xfb 0x1),
    printcap "log_max_eq" (capFld 0xfc 0x4),
    printcap "max_indirection" (capFld 0x100 0x8),
    printcap "fixed_buffer_size" (capFld 0x108 0x1),
    printcap "log_max_mrw_sz" (capFld 0x109 0x7),
    printcap "force_teardown" (capFld 0x110 0x1),
    printcap "log_max_bsf_list_size" (capFld 0x112 0x6),
    printcap "umr_extended_translation_offset" (capFld 0x118 0x1),
    printcap "null_mkey" (capFld 0x119 0x1),
    printcap "log_max_klm_list_size" (capFld 0x11a 0x6),
    printcap "log_max_ra_req_dc" (capFld 0x12a 0x6),
    printcap "eth_wqe_too_small" (capFld 0x132 0x1),
    printcap "vnic_env_cq_overrun" (capFld 0x139 0x1),
    printcap "log_max_ra_res_dc" (capFld 0x13a 0x6),
    printcap "release_all_pages" (capFld 0x145 0x1),
    printcap "must_not_use" (capFld 0x146 0x1),
    printcap "roce_accl" (capFld 0x149 0x1),
    printcap "log_max_ra_req_qp" (capFld 0x14a 0x6),
    printcap "log_max_ra_res_qp" (capFld 0x15a 0x6),
    printcap "end_pad" (capFld 0x160 0x1),
    printcap "cc_query_allowed" (capFld 0x161 0x1),
    printcap "cc_modify_allowed" (capFld 0x162 0x1),
    printcap "start_pad" (capFld 0x163 0x1),
    printcap "cache_line_128byte" (capFld 0x164 0x1),
    printcap "rts2rts_qp_counters_set_id" (capFld 0x169 0x1),
    printcap "vnic_env_int_rq_oob" (capFld 0x16c 0x1),
    printcap "sbcam_reg" (capFld 0x16d 0x1),
    printcap "qcam_reg" (capFld 0x16f 0x1),
    printcap "gid_table_size" (capFld 0x170 0x10),
    printcap "out_of_seq_cnt" (capFld 0x180 0x1),
    printcap "vport_counters" (capFld 0x181 0x1),
    printcap "retransmission_q_counters" (capFld 0x182 0x1),
    printcap "debug" (capFld 0x183 0x1),
    printcap "modify_rq_counter_set_id" (capFld 0x184 0x1),
    printcap "rq_delay_drop" (capFld 0x185 0x1),
    printcap "max_qp_cnt" (capFld 0x186 0xa),
    printcap "pkey_table_size" (capFld 0x190 0x10),
    printcap "vport_group_manager" (capFld 0x1a0 0x1),
    printcap "vhca_group_manager" (capFld 0x1a1 0x1),
    printcap "ib_virt" (capFld 0x1a2 0x1),
    printcap "eth_virt" (capFld 0x1a3 0x1),
    printcap "vnic_env_queue_counters" (capFld 0x1a4 0x1),
    printcap "ets" (capFld 0x1a5 0x1),
    printcap "nic_flow_table" (capFld 0x1a6 0x1),
    printcap "eswitch_manager" (capFld 0x1a7 0x1),
    printcap "device_memory" (capFld 0x1a8 0x1),
    printcap "mcam_reg" (capFld 0x1a9 0x1),
    printcap "pcam_reg" (capFld 0x1aa 0x1),
    printcap "local_ca_ack_delay" (capFld 0x1ab 0x5),
    printcap "port_module_event" (capFld 0x1b0 0x1),
    printcap "enhanced_error_q_counters" (capFld 0x1b1 0x1),
    printcap "ports_check" (capFld 0x1b2 0x1),
    printcap "disable_link_up" (capFld 0x1b4 0x1),
    printcap "beacon_led" (capFld 0x1b5 0x1),
    printcap "port_type" (capFld 0x1b6 0x2),
    printcap "num_ports" (capFld 0x1b8 0x8),
    printcap "pps" (capFld 0x1c1 0x1),
    printcap "pps_modify" (capFld 0x1c2 0x1),
    printcap "log_max_msg" (capFld 0x1c3 0x5),
    printcap "max_tc" (capFld 0x1cc 0x4),
    printcap "temp_warn_event" (capFld 0x1d0 0x1),
    printcap "dcbx" (capFld 0x1d1 0x1),
    printcap "general_notification_event" (capFld 0x1d2 0x1),
    printcap "fpga" (capFld 0x1d5 0x1),
    printcap "rol_s" (capFld 0x1d6 0x1),
    printcap "rol_g" (capFld 0x1d7 0x1),
    printcap "wol_s" (capFld 0x1d9 0x1),
    printcap "wol_g" (capFld 0x1da 0x1),
    printcap "wol_a" (capFld 0x1db 0x1),
    printcap "wol_b" (capFld 0x1dc 0x1),
    printcap "wol_m" (capFld 0x1dd 0x1),
    printcap "wol_u" (capFld 0x1de 0x1),
    printcap "wol_p" (capFld 0x1df 0x1),
    printcap "stat_rate_support" (capFld 0x1e0 0x10),
    printcap "pci_sync_for_fw_update_event" (capFld 0x1f1 0x1),
    printcap "init2_lag_tx_port_affinity" (capFld 0x1f8 0x1),
    printcap "cqe_version" (capFld 0x1fc 0x4),
    printcap "compact_address_vector" (capFld 0x200 0x1),
    printcap "striding_rq" (capFld 0x201 0x1),
    printcap "ipoib_enhanced_offloads" (capFld 0x203 0x1),
    printcap "ipoib_basic_offloads" (capFld 0x204 0x1),
    printcap "repeated_block_disabled" (capFld 0x206 0x1),
    printcap "umr_modify_entity_size_disabled" (capFld 0x207 0x1),
    printcap "umr_modify_atomic_disabled" (capFld 0x208 0x1),
    printcap "umr_indirect_mkey_disabled" (capFld 0x209 0x1),
    printcap "umr_fence" (capFld 0x20a 0x2),
    printcap "dc_req_scat_data_cqe" (capFld 0x20c 0x1),
    printcap "drain_sigerr" (capFld 0x20f 0x1),
    printcap "cmdif_checksum" (capFld 0x210 0x2),
    printcap "sigerr_cqe" (capFld 0x212 0x1),
    printcap "wq_signature" (capFld 0x214 0x1),
    printcap "sctr_data_cqe" (capFld 0x215 0x1),
    printcap "sho" (capFld 0x217 0x1),
    printcap "tph" (capFld 0x218 0x1),
    printcap "rf" (capFld 0x219 0x1),
    printcap "dct" (capFld 0x21a 0x1),
    printcap "qos" (capFld 0x21b 0x1),
    printcap "eth_net_offloads" (capFld 0x21c 0x1),
    printcap "roce" (capFld 0x21d 0x1),
    printcap "atomic" (capFld 0x21e 0x1),
    printcap "cq_oi" (capFld 0x220 0x1),
    printcap "cq_resize" (capFld 0x221 0x1),
    printcap "cq_moderation" (capFld 0x222 0x1),
    printcap "cq_eq_remap" (capFld 0x226 0x1),
    printcap "pg" (capFld 0x227 0x1),
    printcap "block_lb_mc" (capFld 0x228 0x1),
    printcap "scqe_break_moderation" (capFld 0x22a 0x1),
    printcap "cq_period_start_from_cqe" (capFld 0x22b 0x1),
    printcap "cd" (capFld 0x22c 0x1),
    printcap "apm" (capFld 0x22e 0x1),
    printcap "vector_calc" (capFld 0x22f 0x1),
    printcap "umr_ptr_rlky" (capFld 0x230 0x1),
    printcap "imaicl" (capFld 0x231 0x1),
    printcap "qp_packet_based" (capFld 0x232 0x1),
    printcap "qkv" (capFld 0x236 0x1),
    printcap "pkv" (capFld 0x237 0x1),
    printcap "set_deth_sqpn" (capFld 0x238 0x1),
    printcap "xrc" (capFld 0x23c 0x1),
    printcap "ud" (capFld 0x23d 0x1),
    printcap "uc" (capFld 0x23e 0x1),
    printcap "rc" (capFld 0x23f 0x1),
    printcap "uar_4k" (capFld 0x240 0x1),
    printcap "uar_sz" (capFld 0x24a 0x6),
    printcap "port_selection_cap" (capFld 0x250 0x1),
    printcap "umem_uid_0" (capFld 0x252 0x1),
    printcap "log_pg_sz" (capFld 0x258 0x8),
    printcap "bf" (capFld 0x260 0x1),
    printcap "driver_version" (capFld 0x261 0x1),
    printcap "pad_tx_eth_packet" (capFld 0x262 0x1),
    printcap "mkey_by_name" (capFld 0x266 0x1),
    printcap "log_bf_reg_size" (capFld 0x26b 0x5),
    printcap "lag_dct" (capFld 0x276 0x2),
    printcap "lag_tx_port_affinity" (capFld 0x278 0x1),
    printcap "lag_native_fdb_selection" (capFld 0x279 0x1),
    printcap "lag_master" (capFld 0x27b 0x1),
    printcap "num_lag_ports" (capFld 0x27c 0x4),
    printcap "num_of_diagnostic_counters" (capFld 0x280 0x10),
    printcap "max_wqe_sz_sq" (capFld 0x290 0x10),
    printcap "max_wqe_sz_rq" (capFld 0x2b0 0x10),
    printcap "max_flow_counter_31_16" (capFld 0x2c0 0x10),
    printcap "max_wqe_sz_sq_dc" (capFld 0x2d0 0x10),
    printcap "max_qp_mcg" (capFld 0x2e7 0x19),
    printcap "flow_counter_bulk_alloc" (capFld 0x310 0x8),
    printcap "log_max_mcg" (capFld 0x318 0x8),
    printcap "log_max_transport_domain" (capFld 0x323 0x5),
    printcap "log_max_pd" (capFld 0x32b 0x5),
    printcap "log_max_xrcd" (capFld 0x33b 0x5),
    printcap "nic_receive_steering_discard" (capFld 0x340 0x1),
    printcap "receive_discard_vport_down" (capFld 0x341 0x1),
    printcap "transmit_discard_vport_down" (capFld 0x342 0x1),
    printcap "eq_overrun_count" (capFld 0x343 0x1),
    printcap "invalid_command_count" (capFld 0x345 0x1),
    printcap "quota_exceeded_count" (capFld 0x346 0x1),
    printcap "log_max_flow_counter_bulk" (capFld 0x348 0x8),
    printcap "max_flow_counter_15_0" (capFld 0x350 0x10),
    printcap "log_max_rq" (capFld 0x363 0x5),
    printcap "log_max_sq" (capFld 0x36b 0x5),
    printcap "log_max_tir" (capFld 0x373 0x5),
    printcap "log_max_tis" (capFld 0x37b 0x5),
    printcap "basic_cyclic_rcv_wqe" (capFld 0x380 0x1),
    printcap "log_max_rmp" (capFld 0x383 0x5),
    printcap "log_max_rqt" (capFld 0x38b 0x5),
    printcap "mini_cqe_resp_stride_index" (capFld 0x5bc 0x1),
    printcap "cqe_128_always" (capFld 0x5bd 0x1),
    printcap "cqe_compression_128" (capFld 0x5be 0x1),
    printcap "cqe_compression" (capFld 0x5bf 0x1),
    printcap "cqe_compression_timeout" (capFld 0x5c0 0x10),
    printcap "cqe_compression_max_num" (capFld 0x5d0 0x10),
    printcap "flex_parser_id_gtpu_dw_0" (capFld 0x5e8 0x4),
    printcap "flex_parser_id_icmp_dw1" (capFld 0x6c8 0x4),
    printcap "flex_parser_id_icmp_dw0" (capFld 0x6cc 0x4),
    printcap "flex_parser_id_icmpv6_dw1" (capFld 0x6d0 0x4),
    printcap "flex_parser_id_icmpv6_dw0" (capFld 0x6d4 0x4),
    printcap "flex_parser_id_outer_first_mpls_over_gre" (capFld 0x6d8 0x4),
    printcap "flex_parser_id_outer_first_mpls_over_udp_label" (capFld 0x6dc 0x4),
    printcap "max_num_match_definer" (capFld 0x6e0 0x10),
    printcap "sf_base_id" (capFld 0x6f0 0x10),
    printcap "flex_parser_id_gtpu_dw_2" (capFld 0x700 0x4),
    printcap "flex_parser_id_gtpu_first_ext_dw_0" (capFld 0x704 0x4),
    printcap "num_total_dynamic_vf_msix" (capFld 0x708 0x18),
    printcap "dynamic_msix_table_size" (capFld 0x734 0xc),
    printcap "min_dynamic_vf_msix_table_size" (capFld 0x74c 0x4),
    printcap "max_dynamic_vf_msix_table_size" (capFld 0x754 0xc),
    printcap64 "0x%lx" "vhca_tunnel_commands" (capFld64 0x780),
    printcap64 "0x%lx" "match_definer_format_supported" (capFld64 0x7c0)]

/-- `print_hca_caps2`, of `cmd_hca_cap_2` -/
def printHcaCaps2 : List FieldLine :=
  [printcap "max_reformat_insert_size" (capFld 0xa0 0x8),
    printcap "max_reformat_insert_offset" (capFld 0xa8 0x8),
    printcap "max_reformat_remove_size" (capFld 0xb0 0x8),
    printcap "max_reformat_remove_offset" (capFld 0xb8 0x8),
    printcap "log_min_mkey_entity_size" (capFld 0x1ab 0x5),
    printcap "sw_vhca_id_valid" (capFld 0x221 0x1),
    printcap "sw_vhca_id" (capFld 0x222 0xe),
    printcap "ts_cqe_metadata_size2wqe_counter" (capFld 0x24b 0x5)]

/-- `print_eth_caps`, of `per_protocol_networking_offload_caps` -/
def printEthCaps : List FieldLine :=
  [printcap "csum_cap" (capFld 0x0 0x1),
    printcap "vlan_cap" (capFld 0x1 0x1),
    printcap "lro_cap" (capFld 0x2 0x1),
    printcap "lro_psh_flag" (capFld 0x3 0x1),
    printcap "lro_time_stamp" (capFld 0x4 0x1),
    printcap "wqe_vlan_insert" (capFld 0x7 0x1),
    printcap "self_lb_en_modifiable" (capFld 0x8 0x1),
    printcap "max_lso_cap" (capFld 0xb 0x5),
    printcap "multi_pkt_send_wqe" (capFld 0x10 0x2),
    printcap "wqe_inline_mode" (capFld 0x12 0x2),
    printcap "rss_ind_tbl_cap" (capFld 0x14 0x4),
    printcap "reg_umr_sq" (capFld 0x18 0x1),
    printcap "scatter_fcs" (capFld 0x19 0x1),
    printcap "enhanced_multi_pkt_send_wqe" (capFld 0x1a 0x1),
    printcap "tunnel_lso_const_out_ip_id" (capFld 0x1b 0x1),
    printcap "tunnel_lro_gre" (capFld 0x1c 0x1),
    printcap "tunnel_lro_vxlan" (capFld 0x1d 0x1),
    printcap "tunnel_stateless_gre" (capFld 0x1e 0x1),
    printcap "tunnel_stateless_vxlan" (capFld 0x1f 0x1),
    printcap "swp" (capFld 0x20 0x1),
    printcap "swp_csum" (capFld 0x21 0x1),
    printcap "swp_lso" (capFld 0x22 0x1),
    printcap "cqe_checksum_full" (capFld 0x23 0x1),
    printcap "tunnel_stateless_geneve_tx" (capFld 0x24 0x1),
    printcap "tunnel_stateless_mpls_over_udp" (capFld 0x25 0x1),
    printcap "tunnel_stateless_mpls_over_gre" (capFld 0x26 0x1),
    printcap "tunnel_stateless_vxlan_gpe" (capFld 0x27 0x1),
    printcap "tunnel_stateless_ipv4_over_vxlan" (capFld 0x28 0x1),
    printcap "tunnel_stateless_ip_over_ip" (capFld 0x29 0x1),
    printcap "insert_trailer" (capFld 0x2a 0x1),
    printcap "tunnel_stateless_ip_over_ip_rx" (capFld 0x2c 0x1),
    printcap "tunnel_stateless_ip_over_ip_tx" (capFld 0x2d 0x1),
    printcap "max_vxlan_udp_ports" (capFld 0x30 0x8),
    printcap "max_geneve_opt_len" (capFld 0x3e 0x1),
    printcap "tunnel_stateless_geneve_rx" (capFld 0x3f 0x1),
    printcap "lro_min_mss_size" (capFld 0x50 0x10),
    printcap "lro_timer_supported_periods[0]" (capFld 0x180 0x20),
    printcap "lro_timer_supported_periods[1]" (capFld 0x1a0 0x20),
    printcap "lro_timer_supported_periods[2]" (capFld 0x1c0 0x20),
    printcap "lro_timer_supported_periods[3]" (capFld 0x1e0 0x20),
    printcap "enhanced_multi_pkt_send_wqe" (capFld 0x1a 0x1)]

/-- `print_virtio_emulation_cap`, of `virtio_emulation_cap` -/
def printVirtioEmulationCap : List FieldLine :=
  [printcap "desc_tunnel_offload_type" (capFld 0x0 0x1),
    printcap "eth_frame_offload_type" (capFld 0x1 0x1),
    printcap "virtio_version_1_0" (capFld 0x2 0x1),
    printcap "device_features_bits_mask" (capFld 0x3 0xd),
    printcap "event_mode" (capFld 0x10 0x8),
    printcap "virtio_queue_type" (capFld 0x18 0x8),
    printcap "max_tunnel_desc" (capFld 0x20 0x10),
    printcap "log_doorbell_stride" (capFld 0x33 0x5),
    printcap "log_doorbell_bar_size" (capFld 0x3b 0x5),
    printcap64 "%ld" "doorbell_bar_offset" (capFld64 0x40),
    printcap "max_emulated_devices" (capFld 0x80 0x8),
    printcap "max_num_virtio_queues" (capFld 0x88 0x18),
    printcap "umem_1_buffer_param_a" (capFld 0x100 0x20),
    printcap "umem_1_buffer_param_b" (capFld 0x120 0x20),
    printcap "umem_2_buffer_param_a" (capFld 0x140 0x20),
    printcap "umem_2_buffer_param_b" (capFld 0x160 0x20),
    printcap "umem_3_buffer_param_a" (capFld 0x180 0x20),
    printcap "umem_3_buffer_param_b" (capFld 0x1a0 0x20)]

/-- `print_roce_cap`, of `roce_cap` -/
def printRoceCap : List FieldLine :=
  [printcap "roce_apm" (capFld 0x0 0x1),
    printcap "sw_r_roce_src_udp_port" (capFld 0x4 0x1),
    printcap "fl_rc_qp_when_roce_disabled" (capFld 0x5 0x1),
    printcap "fl_rc_qp_when_roce_enabled" (capFld 0x6 0x1),
    printcap "qp_ts_format" (capFld 0x1e 0x2),
    printcap "l3_type" (capFld 0x8c 0x4),
    printcap "roce_version" (capFld 0x98 0x8),
    printcap "r_roce_dest_udp_port" (capFld 0xb0 0x10),
    printcap "r_roce_max_src_udp_port" (capFld 0xc0 0x10),
    printcap "r_roce_min_src_udp_port" (capFld 0xd0 0x10),
    printcap "roce_address_table_size" (capFld 0xf0 0x10)]

/-- `print_debug_caps`, of `debug_cap` -/
def printDebugCaps : List FieldLine :=
  [printcap "core_dump_general" (capFld 0x0 0x1),
    printcap "core_dump_qp" (capFld 0x1 0x1),
    printcap "log_cr_dump_to_mem_size" (capFld 0x4 0x5),
    printcap "resource_dump" (capFld 0x9 0x1),
    printcap "log_min_resource_dump_eq" (capFld 0xb 0x5),
    printcap "log_max_samples" (capFld 0x18 0x8),
    printcap "single" (capFld 0x20 0x1),
    printcap "repetitive" (capFld 0x21 0x1),
    printcap "health_mon_rx_activity" (capFld 0x22 0x1),
    printcap "diag_counter_tracer_dump" (capFld 0x23 0x1),
    printcap "log_min_sample_period" (capFld 0x38 0x8)]

/-- `print_port_selection_caps`, of `port_selection_cap` -/
def printPortSelectionCaps : List FieldLine :=
  [printcap "port_select_flow_table" (capFld 0x10 0x1),
    printcap "port_select_flow_table_bypass" (capFld 0x12 0x1)]
/-- The table of a pretty printer. -/
def capLines : Printcap → List FieldLine
  | .hcaCaps => printHcaCaps
  | .ethCaps => printEthCaps
  | .roceCap => printRoceCap
  | .hcaCaps2 => printHcaCaps2
  | .portSelectionCaps => printPortSelectionCaps
  | .virtioEmulationCap => printVirtioEmulationCap
  | .debugCaps => printDebugCaps

/-- The seven pretty printers, on the bytes of a capability. -/
def printCap (print : Printcap) (bytes : List u8) : List Line :=
  printLines (capLines print) (overlay bytes zeroMem)

/-- Every field that is printed lies in the bytes that the hex form shows. -/
theorem caps_printed (print : Printcap) : FieldsIn (capLines print) capBytes := by
  cases print <;> decide +kernel

/-- A printer prints of the bytes in the hex form only. -/
theorem printCap_congr (print : Printcap) {p q : Mem}
    (h : capability p capBytes = capability q capBytes) :
    printCap print (capability p 4096) = printCap print (capability q 4096) := by
  have hload (r : Mem) : load (overlay (capability r 4096) zeroMem) 0 capBytes =
      capability r capBytes := load_overlay_load r zeroMem _ (by decide)
  exact printLines_congr (caps_printed print) ((hload p).trans (h.trans (hload q).symm))

end Mlx5ctl.DevCaps
